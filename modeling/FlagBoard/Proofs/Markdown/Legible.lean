import FlagBoard.Markdown.Page
import FlagBoard.Proofs.Html.Openings
import FlagBoard.Proofs.Markdown.Elements
import Mathlib

/-!
The HTML of Markdown is legible: whatever document it comes from, it is read as a tree on its own,
with all elements closed that it opens. These are of few tags, each with few attributes, and there
is one for each thing of the document that has a tag, in the same order and as deep; raw HTML has
none.
-/

namespace FlagBoard.Markdown

open FlagBoard.Html

section Attributes

theorem means_escape_quoted (c : Char) : Means (escapeQuoted c) [c] := by
  rw [escapeQuoted]
  split
  · rename_i same
    subst same
    exact means_reference "#39".toList '\'' (by decide) (by decide)
  · exact means_escape_value c

theorem digit_plain : ∀ value < 16, isPlainInValue (Text.Percent.digit value) = true := by decide

theorem encode_char_plain (c : Char) :
    (Text.Percent.encodeChar c).all isPlainInValue = true := by
  rw [List.all_eq_true]
  intro written member
  obtain ⟨byte, _, inside⟩ := List.mem_flatMap.mp member
  have small := byte.toNat_lt
  simp only [Text.Percent.encodeByte, List.mem_cons, List.not_mem_nil, or_false] at inside
  rcases inside with rfl | rfl | rfl
  · decide
  · exact digit_plain _ (by omega)
  · exact digit_plain _ (by omega)

theorem plain_in_address {c : Char} (plain : isPlainInAddress c = true) :
    isPlainInValue c = true := by
  simp only [isPlainInValue, Bool.and_eq_true, bne_iff_ne]
  refine ⟨⟨⟨?_, ?_⟩, ?_⟩, ?_⟩ <;> rintro rfl <;> exact absurd plain (by decide)

/-- A character of a destination means itself, or the escapes of its bytes. -/
theorem means_escape_address (c : Char) : ∃ meant, Means (escapeAddress c) meant := by
  rw [escapeAddress]
  split
  · rename_i plain
    exact ⟨_, means_char (plain_in_address plain)⟩
  split
  · exact ⟨_, means_reference "amp".toList '&' (by decide) (by decide)⟩
  split
  · exact ⟨_, means_reference "#x27".toList '\'' (by decide) (by decide)⟩
  · exact ⟨_, means_chars (encode_char_plain c)⟩

theorem means_address (destination : List Char) :
    ∃ meant, Means (destination.flatMap escapeAddress) meant := by
  choose meaning each using means_escape_address
  exact ⟨_, means_flatMap each destination⟩

theorem means_quoted (text : List Char) :
    ∃ meant, Means (text.flatMap escapeQuoted) meant :=
  ⟨_, means_flatMap means_escape_quoted text⟩

end Attributes

section Tags

/-- The tags that are written, each with the attributes that it may have. -/
def writtenTags : List (String × List String) :=
  [("p", []), ("h1", []), ("h2", []), ("h3", []), ("h4", []), ("h5", []), ("h6", []),
    ("ul", []), ("ol", ["start"]), ("li", []), ("blockquote", []), ("pre", []), ("code", ["class"]),
    ("table", []), ("thead", []), ("tbody", []), ("tr", []), ("th", ["style"]), ("td", ["style"]),
    ("em", []), ("strong", []), ("del", []), ("a", ["href", "title"]),
    ("img", ["src", "alt", "title"]), ("br", []), ("hr", [])]

/-- An element of such a tag, with such attributes. -/
def Written (tag : String) (attributes : List (String × String)) : Prop :=
  ∃ names, (tag, names) ∈ writtenTags ∧ ∀ one ∈ attributes, one.1 ∈ names

/-- Nothing but code has a class. -/
def OnlyCodeClassed (tag : String) (attributes : List (String × String)) : Prop :=
  tag = "code" ∨ attributes.lookup "class" = none

theorem only_code_of_written {tag : String} {attributes : List (String × String)}
    (written : Written tag attributes) : OnlyCodeClassed tag attributes := by
  obtain ⟨names, member, named⟩ := written
  have other : ∀ one ∈ writtenTags, one.1 = "code" ∨ "class" ∉ one.2 := by decide
  refine (other _ member).imp_right fun classless => ?_
  rw [List.lookup_eq_none_iff]
  intro one given
  rw [bne_iff_ne]
  rintro same
  exact classless (same ▸ named one given)

/-- Attributes that can be read. -/
def Readable (given : List Attribute) : Prop :=
  ∃ read, List.Forall₂ Attribute.Reads given read

theorem readable_nil : Readable [] := ⟨[], .nil⟩

theorem readable_cons {name : String} {value : List Char} {rest : List Attribute}
    (named : isName name = true) (means : ∃ meant, Means value meant) (more : Readable rest) :
    Readable (⟨name, some value⟩ :: rest) := by
  obtain ⟨meant, means⟩ := means
  obtain ⟨read, reads⟩ := more
  refine ⟨(name, String.ofList meant) :: read, .cons ⟨named, rfl, ?_⟩ reads⟩
  simpa using means

theorem readable_text {name : String} (named : isName name = true) (value : String) :
    Readable [.ofText name value] :=
  ⟨[(name, value)], .cons (reads_of_text named value) .nil⟩

/-- A tag that is written, with attributes that it may have and that can be read. -/
structure Fits (tag : String) (given : List Attribute) : Prop where
  written : ∃ names, (tag, names) ∈ writtenTags ∧ ∀ one ∈ given, one.name ∈ names
  readable : Readable given

theorem fits_bare (tag : String) (known : tag ∈ writtenTags.map Prod.fst) : Fits tag [] := by
  obtain ⟨⟨_, names⟩, member, rfl⟩ := List.mem_map.mp known
  exact ⟨⟨names, member, nofun⟩, readable_nil⟩

variable {tag : String} {given : List Attribute}

theorem Fits.named (fits : Fits tag given) : isName tag = true := by
  have all : ∀ one ∈ writtenTags, isName one.1 = true := by decide
  obtain ⟨names, member, _⟩ := fits.written
  exact all _ member

/-- What the attributes are read as has the same names. -/
theorem Fits.reads (fits : Fits tag given) :
    ∃ read, List.Forall₂ Attribute.Reads given read ∧ Written tag read := by
  obtain ⟨⟨names, member, allowed⟩, read, reads⟩ := fits
  refine ⟨read, reads, names, member, ?_⟩
  induction reads with
  | nil => nofun
  | cons first _ induction =>
      rw [List.forall_mem_cons] at allowed ⊢
      exact ⟨first.name ▸ allowed.1, induction allowed.2⟩

theorem title_named (title : List Char) : ∀ one ∈ titleAttribute title, one.name = "title" := by
  rw [titleAttribute]
  split
  · exact nofun
  · simp

theorem readable_title (title : List Char) : Readable (titleAttribute title) := by
  rw [titleAttribute]
  split
  · exact readable_nil
  · exact readable_cons (by decide) (means_quoted title) readable_nil

theorem fits_link (mail : Bool) (destination title : List Char) :
    Fits "a" (linkAttributes mail destination title) := by
  obtain ⟨meant, means⟩ := means_address destination
  have scheme : ∃ meant, Means (if mail then "mailto:".toList else []) meant := by
    cases mail with
    | true => exact ⟨_, means_chars (by decide)⟩
    | false => exact ⟨_, means_nil⟩
  obtain ⟨start, scheme⟩ := scheme
  refine ⟨⟨["href", "title"], by decide, ?_⟩,
    readable_cons (by decide) ⟨_, scheme.append means⟩ (readable_title title)⟩
  rw [linkAttributes, List.forall_mem_cons]
  exact ⟨by simp, fun one member => by simp [title_named title one member]⟩

theorem fits_image (destination title : List Char) (content : List Element) :
    Fits "img" (imageAttributes destination title content) := by
  refine ⟨⟨["src", "alt", "title"], by decide, ?_⟩, readable_cons (by decide)
    (means_address destination) (readable_cons (by decide) (means_quoted _) (readable_title title))⟩
  rw [imageAttributes, List.forall_mem_cons, List.forall_mem_cons]
  exact ⟨by simp, by simp, fun one member => by simp [title_named title one member]⟩

theorem fits_code (info : Option (List Char)) : Fits "code" (languageAttribute info) := by
  rw [languageAttribute]
  split
  · exact fits_bare "code" (by decide)
  · obtain ⟨meant, means⟩ := means_quoted ((info.getD []).takeWhile (· != ' '))
    have label : Means "language-".toList "language-".toList := means_chars (by decide)
    exact ⟨⟨["class"], by decide, by simp⟩,
      readable_cons (by decide) ⟨_, label.append means⟩ readable_nil⟩

theorem fits_cell (header : Bool) (alignment : Alignment) :
    Fits (if header then "th" else "td") (alignmentAttribute alignment) := by
  refine ⟨⟨["style"], by cases header <;> decide, ?_⟩, ?_⟩
  · cases alignment <;> simp [alignmentAttribute, Attribute.ofText]
  · cases alignment with
    | none => exact readable_nil
    | left => exact readable_text (by decide) _
    | center => exact readable_text (by decide) _
    | right => exact readable_text (by decide) _

theorem fits_list (start : Option Nat) : Fits (listTag start) (startAttribute start) := by
  cases start with
  | none => exact fits_bare "ul" (by decide)
  | some first =>
      rw [startAttribute.eq_def]
      split
      · exact fits_bare "ol" (by decide)
      · exact fits_bare "ol" (by decide)
      · have member : ("ol", ["start"]) ∈ writtenTags := by decide
        exact ⟨⟨["start"], member, by simp [Attribute.ofText]⟩, readable_text (by decide) _⟩

/-- No other levels of headings than these have tags. -/
theorem fits_heading {level : Nat} (sound : 1 ≤ level ∧ level ≤ 6) :
    Fits ("h" ++ toString level) [] := by
  obtain ⟨least, most⟩ := sound
  interval_cases level <;> exact fits_bare _ (by decide)

end Tags

section Outlines

mutual

/-- The outline that an element is to have. Raw HTML has none, and of an image no more than its own
tag. -/
def Element.outline : Element → List Outline
  | .text _ => []
  | .code _ => [.element "code" []]
  | .softBreak => []
  | .hardBreak => [.element "br" []]
  | .emphasis content => [.element "em" (outlines content)]
  | .strong content => [.element "strong" (outlines content)]
  | .struck content => [.element "del" (outlines content)]
  | .link _ _ _ content => [.element "a" (outlines content)]
  | .image _ _ _ => [.element "img" []]
  | .rawHtml => []
  | .block kind content =>
      match kind with
      | .paragraph => [.element "p" (outlines content)]
      | .heading level => [.element ("h" ++ toString level) (outlines content)]
      | .rule => [.element "hr" []]
      | .code _ _ => [.element "pre" [.element "code" []]]
      | .html _ => []
      | .quote => [.element "blockquote" (outlines content)]
      | .list start => [.element (listTag start) (outlines content)]
      | .item _ => [.element "li" (outlines content)]
      | .table =>
          match content with
          | [] => []
          | header :: rows =>
              [.element "table" (header.outline ++ [.element "tbody" (outlines rows)])]
      | .row true => [.element "thead" [.element "tr" (outlines content)]]
      | .row false => [.element "tr" (outlines content)]
      | .cell header _ => [.element (if header then "th" else "td") (outlines content)]

def outlines : List Element → List Outline
  | [] => []
  | element :: rest => element.outline ++ outlines rest

end

/-- Pieces that are read as a tree with some outline, in which all elements are written ones. -/
abbrev Outlined (outline : List Outline) (pieces : List Piece) : Prop :=
  Shaped Written outline pieces

variable {tag : String} {given : List Attribute} {outline : List Outline}

theorem outlined_element (fits : Fits tag given) (filled : isVoid tag = false)
    {content : List Piece} (inside : Outlined outline content) :
    Outlined [.element tag outline] (element tag given content) := by
  obtain ⟨read, reads, written⟩ := fits.reads
  exact shaped_element fits.named filled reads written inside

theorem outlined_single (fits : Fits tag given) (void : isVoid tag = true) (slash : Bool) :
    Outlined [.element tag []] [.single tag given slash] := by
  obtain ⟨read, reads, written⟩ := fits.reads
  exact shaped_single fits.named void reads written slash

/-- An element without attributes. -/
theorem outlined_bare (tag : String) (known : tag ∈ writtenTags.map Prod.fst)
    (filled : isVoid tag = false) {content : List Piece} (inside : Outlined outline content) :
    Outlined [.element tag outline] (element tag [] content) :=
  outlined_element (fits_bare tag known) filled inside

theorem outlined_break : Outlined [] [breakPiece] := shaped_text _

theorem outlined_after_break {pieces : List Piece} (outlined : Outlined outline pieces) :
    Outlined outline (breakPiece :: pieces) := outlined_break.append outlined

theorem outlined_before_break {pieces : List Piece} (outlined : Outlined outline pieces) :
    Outlined outline (pieces ++ [breakPiece]) := by
  have whole := outlined.append outlined_break
  rwa [List.append_nil] at whole

theorem outlined_on_new_line (fresh : Bool) {pieces : List Piece}
    (outlined : Outlined outline pieces) : Outlined outline (onNewLine fresh pieces) := by
  rw [onNewLine]
  split
  · exact outlined
  · exact outlined_after_break outlined

/-- An element that ends its line. -/
theorem outlined_line (fits : Fits tag given) (filled : isVoid tag = false)
    {content : List Piece} (inside : Outlined outline content) :
    Outlined [.element tag outline] (.start tag given :: content ++ [.stop tag, breakPiece]) := by
  have whole := outlined_before_break (outlined_element fits filled inside)
  rwa [element, List.append_assoc] at whole

/-- An element that begins on a line of its own and ends it. -/
theorem outlined_block (fresh : Bool) (fits : Fits tag given) (filled : isVoid tag = false)
    {content : List Piece} (inside : Outlined outline content) :
    Outlined [.element tag outline]
      (onNewLine fresh (.start tag given :: content ++ [.stop tag, breakPiece])) :=
  outlined_on_new_line fresh (outlined_line fits filled inside)

theorem list_tag_filled (start : Option Nat) : isVoid (listTag start) = false := by
  rw [listTag]
  split <;> decide

theorem heading_tag_filled {level : Nat} (sound : 1 ≤ level ∧ level ≤ 6) :
    isVoid ("h" ++ toString level) = false := by
  obtain ⟨least, most⟩ := sound
  interval_cases level <;> decide

mutual

/-- An element, and what is in it. A span or block of raw HTML leaves nothing but text behind. -/
theorem outlined_pieces (fresh : Bool) : (element : Element) → element.Sound →
    Outlined element.outline (elementPieces fresh element)
  | .text chars, _ => shaped_text chars
  | .code chars, _ => by
      have code := outlined_bare "code" (by decide) (by decide) (shaped_text chars)
      rw [elementPieces, Element.outline]
      exact code
  | .softBreak, _ => outlined_break
  | .hardBreak, _ => by
      rw [elementPieces, Element.outline]
      exact outlined_before_break (outlined_single (fits_bare "br" (by decide)) (by decide) true)
  | .emphasis content, .emphasis _ inside => by
      rw [elementPieces, Element.outline]
      exact outlined_bare "em" (by decide) (by decide) (outlined_all_pieces false content inside)
  | .strong content, .strong _ inside => by
      rw [elementPieces, Element.outline]
      exact outlined_bare "strong" (by decide) (by decide) (outlined_all_pieces false content inside)
  | .struck content, .struck _ inside => by
      rw [elementPieces, Element.outline]
      exact outlined_bare "del" (by decide) (by decide) (outlined_all_pieces false content inside)
  | .link mail destination title content, .link _ _ _ _ inside => by
      rw [elementPieces, Element.outline]
      exact outlined_element (fits_link mail destination title) (by decide)
        (outlined_all_pieces false content inside)
  | .image destination title content, _ => by
      rw [elementPieces, Element.outline]
      exact outlined_single (fits_image destination title content) (by decide) true
  | .rawHtml, _ => shaped_nil
  | .block .paragraph content, .block _ _ _ inside => by
      rw [elementPieces, Element.outline]
      exact outlined_block fresh (fits_bare "p" (by decide)) (by decide)
        (outlined_all_pieces false content inside)
  | .block (.heading level) content, .block _ _ own inside => by
      rw [elementPieces, Element.outline]
      exact outlined_block fresh (fits_heading own) (heading_tag_filled own)
        (outlined_all_pieces false content inside)
  | .block .rule content, _ => by
      rw [elementPieces, Element.outline]
      exact outlined_on_new_line fresh
        (outlined_before_break (outlined_single (fits_bare "hr" (by decide)) (by decide) true))
  | .block (.code info text) content, _ => by
      have code := outlined_element (fits_code info) (by decide) (shaped_text text)
      rw [elementPieces, Element.outline]
      exact outlined_block fresh (fits_bare "pre" (by decide)) (by decide) code
  | .block (.html spaces) content, _ => by
      rw [elementPieces, Element.outline]
      split
      · exact shaped_nil
      · exact shaped_text spaces
  | .block .quote content, .block _ _ _ inside => by
      rw [elementPieces, Element.outline]
      exact outlined_block fresh (fits_bare "blockquote" (by decide)) (by decide)
        (outlined_after_break (outlined_all_pieces true content inside))
  | .block (.list start) content, .block _ _ _ inside => by
      rw [elementPieces, Element.outline]
      exact outlined_block fresh (fits_list start) (list_tag_filled start)
        (outlined_after_break (outlined_all_pieces true content inside))
  | .block (.item indent) content, .block _ _ _ inside => by
      rw [elementPieces, Element.outline]
      exact outlined_block fresh (fits_bare "li" (by decide)) (by decide)
        (outlined_all_pieces false content inside)
  | .block .table [], _ => shaped_nil
  | .block .table (header :: rows), .block _ _ _ inside => by
      have parts := List.forall_mem_cons.mp inside
      have body := outlined_bare "tbody" (by decide) (by decide)
        (outlined_after_break (outlined_all_pieces true rows parts.2))
      have table := outlined_line (fits_bare "table" (by decide)) (by decide)
        ((outlined_pieces false header parts.1).append body)
      rw [elementPieces, Element.outline]
      simpa [element] using table
  | .block (.row true) content, .block _ _ _ inside => by
      have row := outlined_bare "tr" (by decide) (by decide)
        (outlined_all_pieces false content inside)
      have head := outlined_bare "thead" (by decide) (by decide) row
      rw [elementPieces, Element.outline]
      simpa [element] using head
  | .block (.row false) content, .block _ _ _ inside => by
      rw [elementPieces, Element.outline]
      exact outlined_line (fits_bare "tr" (by decide)) (by decide)
        (outlined_all_pieces false content inside)
  | .block (.cell header alignment) content, .block _ _ _ inside => by
      have filled : isVoid (if header then "th" else "td") = false := by cases header <;> decide
      rw [elementPieces, Element.outline]
      exact outlined_element (fits_cell header alignment) filled
        (outlined_all_pieces false content inside)

theorem outlined_all_pieces (fresh : Bool) : (elements : List Element) → SoundElements elements →
    Outlined (outlines elements) (elementsPieces fresh elements)
  | [], _ => shaped_nil
  | element :: rest, sound => by
      have parts := List.forall_mem_cons.mp sound
      rw [elementsPieces, outlines]
      exact (outlined_pieces fresh element parts.1).append (outlined_all_pieces _ rest parts.2)

end

/-- Whatever a document says, its HTML is a tree of its own, with the outline of the document. -/
theorem outlined_document (text : List Char) :
    Outlined (outlines (readDocument text)) (pieces text) :=
  outlined_all_pieces true _ (read_document_sound text)

/-- Pieces that are read as a tree on their own in which nothing but code has a class. -/
abbrev Tidy (pieces : List Piece) : Prop := Legible OnlyCodeClassed pieces

/-- Whatever a document says, nothing but code has a class in its HTML. -/
theorem tidy_document (text : List Char) : Tidy (pieces text) := by
  obtain ⟨nodes, forms, each, _⟩ := outlined_document text
  exact ⟨nodes, forms, fun tag attributes content member =>
    only_code_of_written (each tag attributes content member)⟩

/-- Raw HTML is never let through. Behind each angle bracket of the output stands a tag that is
written for Markdown. The output is read as a tree, so all its elements are closed and properly
nested; they have no other tags and attributes than those, and the outline of the document, in which
raw HTML has no part. Of a block of raw HTML nothing else is left than spaces. -/
theorem raw_html_never_gets_through (text : String) :
    (∀ before behind, (render (pieces text.toList)).toList = before ++ '<' :: behind →
      ∃ tag ∈ writtenTags.map Prod.fst, Opens tag behind) ∧
    (∃ nodes, read? (render (pieces text.toList)) = some nodes ∧ EachElement Written nodes ∧
      outlineAll nodes = outlines (readDocument text.toList)) ∧
    SoundElements (readDocument text.toList) := by
  obtain ⟨nodes, forms, each, outline⟩ := outlined_document text.toList
  have read := read_render forms
  refine ⟨fun before behind shape => ?_, ⟨nodes, read, each, outline⟩, read_document_sound _⟩
  obtain ⟨tag, opens, attributes, content, member⟩ := brackets_open_tags read shape
  obtain ⟨names, known, _⟩ := each tag attributes content member
  exact ⟨tag, List.mem_map_of_mem known, opens⟩

end Outlines

end FlagBoard.Markdown
