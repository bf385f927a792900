import FlagBoard.Page.Mount
import FlagBoard.Proofs.Feed.Grouping
import FlagBoard.Proofs.Feed.LastMessage
import FlagBoard.Proofs.Markdown.Legible
import Mathlib

/-!
The cards of a page as those who read its HTML see them. The categories and the names on the cards
are read off the text of the page, and they are those of the groups that the page was given; what a
name, a category or a description says makes no difference to any other card.
-/

namespace FlagBoard.Page

open FlagBoard.Html

/-- A text as a page shows it: an empty one takes up a space. -/
def shownText (text : String) : String := if text.isEmpty then " " else text

/-- A title of a category, or a name on a card. -/
inductive Heading
  | category (title : String)
  | card (name : String)
  deriving DecidableEq, Repr

def heading? (node : Node) : Option Heading :=
  if isElement "h3" "challenges__category-title" node then
    some (.category (textOf (content node)))
  else if isElement "h4" "challenge-card__name" node then some (.card (textOf (content node)))
  else none

/-- The titles and names that stand in nodes, in the order of the document. -/
def headings (nodes : List Node) : List Heading := (walkAll nodes).filterMap heading?

def groupHeadings (group : Group) : List Heading :=
  .category (shownText group.category) ::
    group.challenges.map fun challenge => .card (shownText challenge.name)

section Marks

def marks : List (String × String) :=
  [("h3", "challenges__category-title"), ("h4", "challenge-card__name"),
    ("section", "challenges__category"), ("article", "challenge-card"),
    ("div", "challenge-card__description"), ("div", "challenges__empty")]

def isMarked (node : Node) : Bool := marks.any fun mark => isElement mark.1 mark.2 node

/-- Tags and attributes of elements that nobody looks for. -/
def Unmarked (tag : String) (attributes : List (String × String)) : Prop :=
  ∀ nodes, isMarked (.element tag attributes nodes) = false

/-- The elements that are looked for, in the order of the document. -/
def marked (nodes : List Node) : List Node := (walkAll nodes).filter isMarked

theorem marked_of_sought {tag name : String} {node : Node} (mark : (tag, name) ∈ marks)
    (found : isElement tag name node = true) : isMarked node = true :=
  List.any_eq_true.mpr ⟨(tag, name), mark, found⟩

theorem unmarked_tag {tag : String} (other : (marks.map Prod.fst).contains tag = false)
    (attributes : List (String × String)) : Unmarked tag attributes := by
  intro nodes
  rw [isMarked, List.any_eq_false]
  intro mark member is
  simp only [isElement, Bool.and_eq_true, beq_iff_eq] at is
  rw [List.contains_eq_mem, decide_eq_false_iff_not] at other
  exact other (is.1 ▸ List.mem_map_of_mem member)

theorem unmarked_of_only_code {tag : String} {attributes : List (String × String)}
    (only : Markdown.OnlyCodeClassed tag attributes) : Unmarked tag attributes := by
  cases only with
  | inl code =>
      rw [code]
      exact unmarked_tag (by decide) attributes
  | inr classless =>
      intro nodes
      rw [isMarked, List.any_eq_false]
      intro mark _
      simp [isElement, hasClass, classless]

theorem marked_append (first second : List Node) :
    marked (first ++ second) = marked first ++ marked second := by
  rw [marked, walkAll_append, List.filter_append]
  rfl

theorem marked_chars (chars : List Char) : marked (chars.map Node.char) = [] := by
  rw [marked, walkAll_chars, List.filter_eq_nil_iff]
  intro node member
  obtain ⟨c, _, rfl⟩ := List.mem_map.mp member
  exact Bool.false_ne_true

theorem marked_of_unmarked {nodes : List Node} (each : EachElement Unmarked nodes) :
    marked nodes = [] := by
  rw [marked, List.filter_eq_nil_iff]
  intro node member
  cases node with
  | char c => exact Bool.false_ne_true
  | element tag attributes content =>
      rw [each tag attributes content member]
      exact Bool.false_ne_true

variable (tag : String) (attributes : List (String × String)) (nodes : List Node)

theorem marked_unmarked_element (unmarked : Unmarked tag attributes) :
    marked [.element tag attributes nodes] = marked nodes := by
  rw [marked, walkAll_element, List.filter_cons_of_neg (by rw [unmarked]; exact Bool.false_ne_true)]
  rfl

theorem marked_element (found : isMarked (.element tag attributes nodes) = true) :
    marked [.element tag attributes nodes] = .element tag attributes nodes :: marked nodes := by
  rw [marked, walkAll_element, List.filter_cons_of_pos found]
  rfl

/-- What is read off marked elements only can be read off the list of these. -/
theorem filterMap_marked {Value : Type} (read? : Node → Option Value)
    (only : ∀ node, isMarked node = false → read? node = none) :
    (walkAll nodes).filterMap read? = (marked nodes).filterMap read? := by
  rw [marked]
  induction walkAll nodes with
  | nil => rfl
  | cons node rest induction =>
      cases isFound : isMarked node with
      | true =>
          rw [List.filter_cons_of_pos isFound, List.filterMap_cons, List.filterMap_cons, induction]
      | false =>
          rw [List.filter_cons_of_neg (by simp [isFound]), List.filterMap_cons, only node isFound,
            induction]

theorem headings_eq : headings nodes = (marked nodes).filterMap heading? := by
  apply filterMap_marked
  intro node unmarked
  simp only [isMarked, marks, List.any_cons, Bool.or_eq_false_iff] at unmarked
  rw [heading?, unmarked.1, unmarked.2.1]
  rfl

theorem select_eq (name : String) (mark : (tag, name) ∈ marks) :
    select tag name nodes = (marked nodes).filter (isElement tag name) := by
  rw [select, marked, List.filter_filter]
  apply List.filter_congr
  intro node _
  cases found : isElement tag name node with
  | false => rfl
  | true =>
      rw [marked_of_sought mark found]
      rfl

end Marks

section Parts

/-- Pieces in which certain elements are found of those that are looked for. -/
def Shows (pieces : List Piece) (found : List Node) : Prop :=
  ∃ nodes, Forms pieces nodes ∧ marked nodes = found

variable {first second content : List Piece} {found later : List Node}

theorem shows_nil : Shows [] [] := ⟨[], forms_nil, rfl⟩

theorem Shows.append (start : Shows first found) (rest : Shows second later) :
    Shows (first ++ second) (found ++ later) := by
  obtain ⟨nodes, forms, rfl⟩ := start
  obtain ⟨more, formsOn, rfl⟩ := rest
  exact ⟨_, forms.append formsOn, marked_append nodes more⟩

theorem shows_flatMap {Item : Type} {pieces : Item → List Piece} {found : Item → List Node}
    (items : List Item) (each : ∀ item ∈ items, Shows (pieces item) (found item)) :
    Shows (items.flatMap pieces) (items.flatMap found) := by
  induction items with
  | nil => exact shows_nil
  | cons first rest induction =>
      rw [List.forall_mem_cons] at each
      exact each.1.append (induction each.2)

theorem forms_text_node (text : String) :
    Forms [textNode text] ((shownText text).toList.map .char) := by
  have same : textNode text = .text (shownText text).toList := by
    rw [textNode, shownText]
    split <;> rfl
  rw [same]
  exact forms_text _

theorem shows_text (text : String) : Shows [textNode text] [] :=
  ⟨_, forms_text_node text, marked_chars _⟩

variable (tag : String) {given : List Attribute} {read : List (String × String)}

/-- An element that nobody looks for shows what is in it. -/
theorem shows_element (named : isName tag = true) (filled : isVoid tag = false)
    (reads : List.Forall₂ Attribute.Reads given read) (unmarked : Unmarked tag read)
    (inside : Shows content found) : Shows (element tag given content) found := by
  obtain ⟨nodes, forms, rfl⟩ := inside
  exact ⟨_, forms_element named filled reads forms, marked_unmarked_element tag read nodes unmarked⟩

variable (classes : String)

theorem reads_class : List.Forall₂ Attribute.Reads [.ofText "class" classes] [("class", classes)] :=
  .cons (reads_of_text (by decide) classes) .nil

theorem shows_classed (named : isName tag = true) (filled : isVoid tag = false)
    (unmarked : Unmarked tag [("class", classes)]) (inside : Shows content found) :
    Shows (classed tag classes content) found :=
  shows_element tag named filled (reads_class classes) unmarked inside

/-- An element that is looked for is found before what is in it. -/
theorem shows_marked (named : isName tag = true) (filled : isVoid tag = false)
    (mark : ∀ nodes, isMarked (.element tag [("class", classes)] nodes) = true)
    {nodes : List Node} (forms : Forms content nodes) :
    Shows (classed tag classes content)
      (.element tag [("class", classes)] nodes :: marked nodes) :=
  ⟨_, forms_element named filled (reads_class classes) forms,
    marked_element tag _ nodes (mark nodes)⟩

/-- An element that is looked for, whatever is found in it. -/
theorem exists_marked (named : isName tag = true) (filled : isVoid tag = false)
    (mark : ∀ nodes, isMarked (.element tag [("class", classes)] nodes) = true)
    (inside : Shows content found) : ∃ nodes,
      let node := .element tag [("class", classes)] nodes
      marked [node] = node :: found ∧ Shows (classed tag classes content) (node :: found) := by
  obtain ⟨nodes, forms, rfl⟩ := inside
  exact ⟨nodes, marked_element tag _ nodes (mark nodes),
    shows_marked tag classes named filled mark forms⟩

/-- An element that is looked for and has nothing but a text in it. -/
theorem shows_marked_text (named : isName tag = true) (filled : isVoid tag = false)
    (mark : ∀ nodes, isMarked (.element tag [("class", classes)] nodes) = true) (text : String) :
    Shows (classed tag classes [textNode text])
      [.element tag [("class", classes)] ((shownText text).toList.map .char)] := by
  have shows := shows_marked tag classes named filled mark (forms_text_node text)
  rwa [marked_chars] at shows

end Parts

section Widgets

theorem shows_button (classes caption : String) : Shows (actionButton classes caption .idle) [] :=
  shows_classed "button" classes (by decide) (by decide) (unmarked_tag (by decide) _)
    (shows_text caption)

theorem shows_dot (status : Status) : Shows (connectionDot status) [] :=
  shows_element "span" (by decide) (by decide)
    (.cons (reads_of_text (by decide) _) (reads_class _)) (unmarked_tag (by decide) _) shows_nil

theorem shows_flag_form : Shows (flagForm .empty false) [] := by
  have input : Shows [.single "input" [.ofText "type" "text",
      .ofText "placeholder" "flag\x7b...\x7d", .ofText "autocomplete" "off",
      .ofText "class" "flag-checker__input"] false] [] :=
    ⟨_, forms_single (by decide) (by decide) (.cons (reads_of_text (by decide) _)
      (.cons (reads_of_text (by decide) _) (.cons (reads_of_text (by decide) _)
        (reads_class _)))) false,
      marked_unmarked_element "input" _ [] (unmarked_tag (by decide) _)⟩
  have attributes : List.Forall₂ Attribute.Reads
      [.ofText "type" "submit", .ofText "class" "btn flag-checker__submit"]
      [("type", "submit"), ("class", "btn flag-checker__submit")] :=
    .cons (reads_of_text (by decide) _) (reads_class _)
  have submit := shows_element "button" (by decide) (by decide) attributes
    (unmarked_tag (by decide) _) (shows_text "Submit")
  have row := shows_classed "div" "flag-checker__row" (by decide) (by decide)
    (fun nodes => by rfl) (input.append submit)
  have form := shows_classed "form" "flag-checker" (by decide) (by decide)
    (unmarked_tag (by decide) _) row
  simpa [flagForm, FlagForm.empty, message, classedWith, switch] using form

end Widgets

section Cards

def nameNode (challenge : Challenge) : Node :=
  .element "h4" [("class", "challenge-card__name")]
    ((shownText challenge.name).toList.map .char)

def descriptionNodes (challenge : Challenge) : List Node :=
  (read? (render (Markdown.pieces challenge.description.toList))).getD []

def descriptionNode (challenge : Challenge) : Node :=
  .element "div" [("class", "challenge-card__description")] (descriptionNodes challenge)

theorem content_description (challenge : Challenge) :
    content (descriptionNode challenge) = descriptionNodes challenge := by
  rw [descriptionNode, content]

theorem forms_description (challenge : Challenge) :
    read? (render (Markdown.pieces challenge.description.toList)) =
        some (descriptionNodes challenge) ∧
      Forms (Markdown.pieces challenge.description.toList) (descriptionNodes challenge) ∧
      marked (descriptionNodes challenge) = [] := by
  obtain ⟨nodes, forms, each⟩ := Markdown.tidy_document challenge.description.toList
  have read := read_render forms
  have same : descriptionNodes challenge = nodes := by rw [descriptionNodes, read, Option.getD_some]
  rw [same]
  refine ⟨read, forms, marked_of_unmarked ?_⟩
  intro tag attributes content member
  exact unmarked_of_only_code (each tag attributes content member)

/-- The element that is the card of a challenge. -/
structure IsCard (browser : ChallengeBrowser) (challenge : Challenge) (card : Node) : Prop where
  element : isElement "article" "challenge-card" card = true
  inside : marked [card] = [card, nameNode challenge, descriptionNode challenge]
  shows : Shows (challengeCard browser challenge)
    [card, nameNode challenge, descriptionNode challenge]

theorem exists_card (browser : ChallengeBrowser) (challenge : Challenge) :
    ∃ card, IsCard browser challenge card := by
  obtain ⟨_, description, plain⟩ := forms_description challenge
  have name : Shows (classed "h4" "challenge-card__name" [textNode challenge.name])
      [nameNode challenge] :=
    shows_marked_text _ _ (by decide) (by decide) (fun nodes => by rfl) challenge.name
  have described : Shows (classed "div" "challenge-card__description"
      (Markdown.pieces challenge.description.toList)) [descriptionNode challenge] := by
    have shows := shows_marked "div" "challenge-card__description" (by decide) (by decide)
      (fun nodes => by rfl) description
    rwa [plain] at shows
  have points := shows_classed "span" "challenge-card__points" (by decide) (by decide)
    (unmarked_tag (by decide) _) (shows_text (pointsLabel challenge.points))
  have header := shows_classed "header" "challenge-card__header" (by decide) (by decide)
    (unmarked_tag (by decide) _) (name.append points)
  have solves := shows_classed "div" "challenge-card__solves" (by decide) (by decide)
    (fun nodes => by rfl) (shows_text (solvesLabel (browser.solvesOf challenge.tag)))
  have actions := shows_classed "div" "challenge-card__actions" (by decide) (by decide)
    (fun nodes => by rfl) ((shows_button "btn" "Reset").append (shows_button "btn" "Start/Stop"))
  have parts := (((((header.append solves).append described).append
    shows_flag_form).append actions).append shows_nil).append shows_nil
  have isCard (nodes : List Node) : isElement "article" "challenge-card" (.element "article"
      [("class", withClass "challenge-card" "challenge-card--solved"
        (browser.isSolved challenge.tag))] nodes) = true := by
    cases browser.isSolved challenge.tag <;> rfl
  obtain ⟨nodes, inside, shows⟩ := exists_marked "article" _ (by decide) (by decide)
    (fun nodes => marked_of_sought (by decide) (isCard nodes)) parts
  exact ⟨_, isCard nodes, inside, shows⟩

def titleNode (group : Group) : Node :=
  .element "h3" [("class", "challenges__category-title")]
    ((shownText group.category).toList.map .char)

def cardNodes (card : Challenge → Node) (group : Group) : List Node :=
  group.challenges.flatMap fun challenge =>
    [card challenge, nameNode challenge, descriptionNode challenge]

/-- The element that is the section of a group, given the cards. -/
structure IsSection (browser : ChallengeBrowser) (card : Challenge → Node) (group : Group)
    (node : Node) : Prop where
  element : isElement "section" "challenges__category" node = true
  inside : marked [node] = node :: titleNode group :: cardNodes card group
  shows : Shows (categorySection browser group) (node :: titleNode group :: cardNodes card group)

theorem exists_section {browser : ChallengeBrowser} {card : Challenge → Node}
    (cards : ∀ challenge, IsCard browser challenge (card challenge)) (group : Group) :
    ∃ node, IsSection browser card group node := by
  have title : Shows (classed "h3" "challenges__category-title" [textNode group.category])
      [titleNode group] :=
    shows_marked_text _ _ (by decide) (by decide) (fun nodes => by rfl) group.category
  have grid := shows_classed "div" "challenges__grid" (by decide) (by decide)
    (fun nodes => by rfl)
    (shows_flatMap group.challenges fun challenge _ => (cards challenge).shows)
  obtain ⟨nodes, inside, shows⟩ := exists_marked "section" "challenges__category" (by decide)
    (by decide) (fun nodes => by rfl) (title.append grid)
  exact ⟨_, by rfl, inside, shows⟩

end Cards

section Pages

theorem shows_rows (rows : List LiveRow) : Shows (rows.flatMap liveItem) [] := by
  have each (row : LiveRow) : Shows (liveItem row) [] :=
    shows_element "li" (by decide) (by decide) .nil (unmarked_tag (by decide) _)
      ((shows_text row.challenge.tag).append ((shows_text " · ").append
        ((shows_text (if row.solvedByOwn then "solved" else "open")).append
          ((shows_text " · ").append (shows_text (solvesLabel row.solves.length))))))
  have all := shows_flatMap rows fun row _ => each row
  have none : rows.flatMap (fun _ => ([] : List Node)) = [] :=
    List.flatMap_eq_nil_iff.mpr fun _ _ => rfl
  rwa [none] at all

def noticeNode : Node :=
  .element "div" [("class", "challenges__empty")] ("No challenges available".toList.map .char)

theorem shows_page (live : Live ChallengeBrowser) {found : List Node}
    (content : Shows (if live.view.groups.isEmpty then
        classed "div" "challenges__empty" [textNode "No challenges available"]
      else live.view.groups.flatMap (categorySection live.view)) found) :
    Shows (challengePage live) found := by
  have header := shows_classed "div" "challenges__header" (by decide) (by decide)
    (fun nodes => by rfl) (shows_dot live.status)
  have summary := shows_element "summary" (by decide) (by decide) .nil
    (unmarked_tag (by decide) _) (shows_text "Live challenge data")
  have list := shows_element "ul" (by decide) (by decide) .nil (unmarked_tag (by decide) _)
    (shows_rows live.view.rows)
  have details := shows_classed "details" "challenges__live" (by decide) (by decide)
    (unmarked_tag (by decide) _) (summary.append list)
  have page := shows_classed "div" "challenges" (by decide) (by decide) (fun nodes => by rfl)
    ((header.append content).append details)
  simpa [challengePage] using page

/-- Nothing that reaches a page changes its groups. -/
theorem groups_of_play (live : Live ChallengeBrowser) (url : String) (steps : List Live.Step) :
    (live.play url steps).view.groups = live.view.groups := by
  have kept (current : Connection × Live ChallengeBrowser) (step : Live.Step) :
      (Live.step current step).2.view.groups = current.2.view.groups := by
    have applied (incoming : Incoming) :
        (incoming.apply current.2.view).groups = current.2.view.groups := by
      have all : incoming.apply current.2.view = _ := apply_all_browser current.2.view [incoming]
      rw [all]
    cases step with
    | signal signal =>
        simp only [Live.step, Live.publish]
        split <;> rfl
    | text frame => exact applied (.text frame)
    | bytes frame => exact applied (.bytes frame)
  rw [Live.play]
  generalize Connection.new url Connection.usualDelay = connection
  induction steps generalizing connection live with
  | nil => rfl
  | cons step rest induction =>
      rw [List.foldl_cons, ← Prod.eta (Live.step (connection, live) step), induction, kept]

end Pages

section Findings

theorem heading_of_name (challenge : Challenge) :
    heading? (nameNode challenge) = some (.card (shownText challenge.name)) := by
  have noTitle : isElement "h3" "challenges__category-title" (nameNode challenge) = false := by rfl
  have name : isElement "h4" "challenge-card__name" (nameNode challenge) = true := by rfl
  have text : textOf (content (nameNode challenge)) = shownText challenge.name := by
    simp [nameNode, content, textOf_chars]
  rw [heading?, noTitle, name, text]
  rfl

theorem heading_of_title (group : Group) :
    heading? (titleNode group) = some (.category (shownText group.category)) := by
  have title : isElement "h3" "challenges__category-title" (titleNode group) = true := by rfl
  have text : textOf (content (titleNode group)) = shownText group.category := by
    simp [titleNode, content, textOf_chars]
  rw [heading?, if_pos title, text]

/-- Only titles and names are headings. -/
theorem heading_of_other {tag name : String} {node : Node}
    (element : isElement tag name node = true) (other : tag ≠ "h3" ∧ tag ≠ "h4") :
    heading? node = none := by
  rw [heading?, element_of_other_tag element other.1, element_of_other_tag element other.2]
  rfl

variable {browser : ChallengeBrowser} {card : Challenge → Node} {part : Group → Node}
  (cards : ∀ challenge, IsCard browser challenge (card challenge)) (group : Group)

include cards

theorem headings_of_cards : (cardNodes card group).filterMap heading? =
    group.challenges.map fun challenge => .card (shownText challenge.name) := by
  rw [cardNodes, List.filterMap_flatMap, List.map_eq_flatMap]
  apply List.flatMap_congr
  intro challenge _
  have ofCard := heading_of_other (cards challenge).element (by decide)
  have ofDescription : heading? (descriptionNode challenge) = none := by rfl
  simp [ofCard, heading_of_name, ofDescription]

theorem headings_of_card (challenge : Challenge) :
    headings [card challenge] = [.card (shownText challenge.name)] := by
  have ofCard := heading_of_other (cards challenge).element (by decide)
  have ofDescription : heading? (descriptionNode challenge) = none := by rfl
  rw [headings_eq, (cards challenge).inside]
  simp [ofCard, heading_of_name, ofDescription]

variable (sections : ∀ group, IsSection browser card group (part group))

include sections

theorem headings_of_group :
    (part group :: titleNode group :: cardNodes card group).filterMap heading? =
      groupHeadings group := by
  have ofSection := heading_of_other (sections group).element (by decide)
  rw [List.filterMap_cons_none ofSection, List.filterMap_cons_some (heading_of_title group),
    headings_of_cards cards, groupHeadings]

theorem headings_of_section : headings [part group] = groupHeadings group := by
  rw [headings_eq, (sections group).inside]
  exact headings_of_group cards group sections

omit cards sections in
/-- What is kept of the parts of a group, if titles and names are not. -/
theorem filter_group (keeps : Node → Bool) (noTitle : keeps (titleNode group) = false)
    (noName : ∀ challenge, keeps (nameNode challenge) = false) :
    (part group :: titleNode group :: cardNodes card group).filter keeps =
      [part group].filter keeps ++ group.challenges.flatMap fun challenge =>
        [card challenge, descriptionNode challenge].filter keeps := by
  have ofCards : (cardNodes card group).filter keeps = group.challenges.flatMap fun challenge =>
      [card challenge, descriptionNode challenge].filter keeps := by
    rw [cardNodes, List.filter_flatMap]
    apply List.flatMap_congr
    intro challenge _
    simp [List.filter_cons, noName]
  have ofTitle : (titleNode group :: cardNodes card group).filter keeps =
      (cardNodes card group).filter keeps := List.filter_cons_of_neg (by simp [noTitle])
  rw [← List.singleton_append, List.filter_append, ofTitle, ofCards]

theorem sections_of_group :
    (part group :: titleNode group :: cardNodes card group).filter
      (isElement "section" "challenges__category") = [part group] := by
  have none : group.challenges.flatMap (fun challenge => [card challenge,
      descriptionNode challenge].filter (isElement "section" "challenges__category")) = [] := by
    rw [List.flatMap_eq_nil_iff]
    intro challenge _
    have ofCard := element_of_other_tag (cards challenge).element
      (show "article" ≠ "section" by decide) "challenges__category"
    have ofDescription : isElement "section" "challenges__category" (descriptionNode challenge) =
      false := by rfl
    simp [ofCard, ofDescription]
  rw [filter_group group _ (by rfl) (fun _ => by rfl), none, List.append_nil,
    List.filter_cons_of_pos (sections group).element, List.filter_nil]

theorem cards_of_group :
    (part group :: titleNode group :: cardNodes card group).filter
      (isElement "article" "challenge-card") = group.challenges.map card := by
  have ofSection := element_of_other_tag (sections group).element
    (show "section" ≠ "article" by decide) "challenge-card"
  rw [filter_group group _ (by rfl) (fun _ => by rfl),
    List.filter_cons_of_neg (by simp [ofSection]), List.filter_nil, List.nil_append,
    List.map_eq_flatMap]
  apply List.flatMap_congr
  intro challenge _
  have ofDescription :
      isElement "article" "challenge-card" (descriptionNode challenge) = false := by rfl
  simp [(cards challenge).element, ofDescription]

/-- What is kept of the parts of a group where only descriptions may be. -/
theorem divisions_of_group (name : String) :
    (part group :: titleNode group :: cardNodes card group).filter (isElement "div" name) =
      (group.challenges.map descriptionNode).filter (isElement "div" name) := by
  have ofSection := element_of_other_tag (sections group).element
    (show "section" ≠ "div" by decide) name
  rw [filter_group group _ (by rfl) (fun _ => by rfl),
    List.filter_cons_of_neg (by simp [ofSection]), List.filter_nil, List.nil_append,
    List.map_eq_flatMap, List.filter_flatMap]
  apply List.flatMap_congr
  intro challenge _
  have ofCard := element_of_other_tag (cards challenge).element
    (show "article" ≠ "div" by decide) name
  exact List.filter_cons_of_neg (by simp [ofCard])

end Findings

/-- What is read off a page in which the elements of groups are found, and no others. -/
theorem read_off_groups {browser : ChallengeBrowser} {card : Challenge → Node}
    {part : Group → Node} (cards : ∀ challenge, IsCard browser challenge (card challenge))
    (sections : ∀ group, IsSection browser card group (part group)) (groups : List Group)
    (page : List Node) (found : marked page =
      groups.flatMap fun group => part group :: titleNode group :: cardNodes card group) :
    let challenges := groups.flatMap Group.challenges
    headings page = groups.flatMap groupHeadings ∧
      select "section" "challenges__category" page = groups.map part ∧
      select "article" "challenge-card" page = challenges.map card ∧
      select "div" "challenge-card__description" page = challenges.map descriptionNode ∧
      select "div" "challenges__empty" page = [] := by
  refine ⟨?_, ?_, ?_, ?_, ?_⟩
  · rw [headings_eq, found, List.filterMap_flatMap]
    exact List.flatMap_congr fun group _ => headings_of_group cards group sections
  · rw [select_eq _ _ _ (by decide), found, List.filter_flatMap, List.map_eq_flatMap]
    exact List.flatMap_congr fun group _ => sections_of_group cards group sections
  · rw [select_eq _ _ _ (by decide), found, List.filter_flatMap, List.map_flatMap]
    exact List.flatMap_congr fun group _ => cards_of_group cards group sections
  · rw [select_eq _ _ _ (by decide), found, List.filter_flatMap, List.map_flatMap]
    apply List.flatMap_congr
    intro group _
    rw [divisions_of_group cards group sections, List.filter_eq_self]
    intro node member
    obtain ⟨challenge, _, rfl⟩ := List.mem_map.mp member
    rfl
  · rw [select_eq _ _ _ (by decide), found, List.filter_flatMap, List.flatMap_eq_nil_iff]
    intro group _
    rw [divisions_of_group cards group sections, List.filter_eq_nil_iff]
    intro node member
    obtain ⟨challenge, _, rfl⟩ := List.mem_map.mp member
    exact Bool.false_ne_true

theorem text_of_notice : textOf (content noticeNode) = "No challenges available" :=
  (textOf_chars _).trans String.ofList_toList

theorem shows_notice :
    Shows (classed "div" "challenges__empty" [textNode "No challenges available"])
      [noticeNode] :=
  shows_marked_text _ _ (by decide) (by decide) (fun nodes => by rfl) "No challenges available"

/-- What is read off a page in which only the notice is found. -/
theorem read_off_notice (page : List Node) (found : marked page = [noticeNode]) :
    headings page = [] ∧ select "section" "challenges__category" page = [] ∧
      select "article" "challenge-card" page = [] ∧
      select "div" "challenge-card__description" page = [] ∧
      select "div" "challenges__empty" page = [noticeNode] := by
  rw [headings_eq, select_eq _ _ _ (by decide), select_eq _ _ _ (by decide),
    select_eq _ _ _ (by decide), select_eq _ _ _ (by decide), found]
  exact ⟨rfl, rfl, rfl, rfl, rfl⟩

/-- The cards of a page are those of its groups. Whatever the text that a page is given, its HTML is
read without a doubt, and the titles of categories and the names on cards are those of the groups
of the challenges in that text, in their order, every challenge once. So it is also in each section
and in each card taken for itself, and a description stands in its own card just as it is read
alone. A notice that there are no challenges is there only if there are none. -/
theorem page_shows_groups (context : Context) (tag : Option String) (seed url : String)
    (steps : List Live.Step) :
    let attributes := MountAttributes.ofRaw tag (some seed)
    let groups := Group.ofChallenges attributes.seed
    let challenges := groups.flatMap Group.challenges
    ∃ page, read? (render (mounted .challenges context attributes url steps)) = some page ∧
      headings page = groups.flatMap groupHeadings ∧
      (select "section" "challenges__category" page).map (fun part => headings [part]) =
        groups.map groupHeadings ∧
      (select "article" "challenge-card" page).map (fun card => headings [card]) =
        challenges.map (fun challenge => [.card (shownText challenge.name)]) ∧
      (select "div" "challenge-card__description" page).map (fun part => some (content part)) =
        challenges.map (fun challenge =>
          read? (render (Markdown.pieces challenge.description.toList))) ∧
      challenges.Perm attributes.seed ∧
      (select "div" "challenges__empty" page).map (fun notice => textOf (content notice)) =
        if attributes.seed = [] then ["No challenges available"] else [] := by
  intro attributes groups challenges
  let live := (Live.ofView (ChallengeBrowser.ofChallenges attributes.seed)).play url steps
  have given : live.view.groups = groups := groups_of_play _ url steps
  have parts := Group.partitions_of_challenges attributes.seed
  by_cases empty : attributes.seed = []
  · have noGroups : groups = [] := congrArg Group.ofChallenges empty
    have noChallenges : challenges = [] := congrArg (List.flatMap Group.challenges) noGroups
    have content : Shows (if live.view.groups.isEmpty then
        classed "div" "challenges__empty" [textNode "No challenges available"]
      else live.view.groups.flatMap (categorySection live.view)) [noticeNode] := by
      rw [given, noGroups]
      exact shows_notice
    obtain ⟨page, forms, found⟩ := shows_page live content
    obtain ⟨headings, sections, cards, descriptions, notices⟩ := read_off_notice page found
    refine ⟨page, read_render forms, ?_⟩
    rw [headings, sections, cards, descriptions, notices, noGroups, noChallenges, if_pos empty,
      empty]
    refine ⟨rfl, rfl, rfl, rfl, .nil, ?_⟩
    rw [List.map_singleton, text_of_notice]
  · have someGroup : groups.isEmpty = false := by
      rw [Bool.eq_false_iff, ne_eq, List.isEmpty_iff, parts.eq_nil_iff]
      exact empty
    choose card cards using exists_card live.view
    choose part sections using exists_section cards
    have content : Shows (if live.view.groups.isEmpty then
        classed "div" "challenges__empty" [textNode "No challenges available"]
      else live.view.groups.flatMap (categorySection live.view))
        (groups.flatMap fun group => part group :: titleNode group :: cardNodes card group) := by
      rw [given, someGroup]
      exact shows_flatMap groups fun group _ => (sections group).shows
    obtain ⟨page, forms, found⟩ := shows_page live content
    obtain ⟨headings, ofSections, ofCards, ofDescriptions, notices⟩ :=
      read_off_groups cards sections groups page found
    refine ⟨page, read_render forms, headings, ?_, ?_, ?_, parts.perm, ?_⟩
    · rw [ofSections, List.map_map]
      exact List.map_congr_left fun group _ => headings_of_section cards group sections
    · rw [ofCards, List.map_map]
      exact List.map_congr_left fun challenge _ => headings_of_card cards challenge
    · rw [ofDescriptions, List.map_map]
      apply List.map_congr_left
      intro challenge _
      rw [Function.comp_apply, content_description, (forms_description challenge).1]
    · rw [notices, if_neg empty]
      rfl

end FlagBoard.Page
