import FlagBoard.Proofs.Http.Bases
import FlagBoard.Proofs.Http.Redirects
import FlagBoard.Proofs.Http.Verdict
import FlagBoard.Proofs.Json.Agreement
import Mathlib

/-!
What users type reaches the platform as they typed it. The body of a request is a text of an object
with just the members that were meant, so nothing typed can end its string or add a member, and a
flag only loses the blanks around it. Where it reaches the platform is left to the base.
-/

namespace FlagBoard

namespace Json

def ofTexts (members : List (String × String)) : Json :=
  .obj (members.map fun member => (member.1, .str member.2))

section Texts

variable (members : List (String × String))

theorem texts_readable (depth : Nat) : Readable (depth + 1) (ofTexts members) := by
  apply Readable.obj
  intro member given
  obtain ⟨text, _, same⟩ := List.mem_map.mp given
  rw [← same]
  exact .str text.2

/-- Whatever characters the members have, what is written for them is one of their texts. -/
theorem spelling_texts (depth : Nat) :
    Spelling (depth + 1) (ofTexts members) (ofTexts members).text.toList [] := by
  have spelling := spelling_print (texts_readable members depth) []
  rwa [List.append_nil, ← String.toList_ofList (l := (ofTexts members).print)] at spelling

theorem texts_keys (keys : (members.map Prod.fst).Nodup) :
    ((members.map fun member => (member.1, Json.str member.2)).map Prod.fst).Nodup := by
  rwa [List.map_map]

theorem texts_distinct (keys : (members.map Prod.fst).Nodup) : (ofTexts members).Distinct := by
  apply Distinct.obj _ (texts_keys members keys)
  intro member given
  obtain ⟨text, _, same⟩ := List.mem_map.mp given
  rw [← same]
  exact .str text.2

/-- From the text of texts under different keys just these are read. -/
theorem read_texts (keys : (members.map Prod.fst).Nodup) :
    ∃ read, Schema.any.readText (ofTexts members).text = .ok (.obj read) ∧
      read.Perm (members.map fun member => (member.1, .str member.2)) := by
  refine ⟨arrangedMembers [] (members.map fun member => (member.1, .str member.2)), ?_, ?_⟩
  · rw [read_text_eq_ok_iff]
    refine ⟨[], ?_, spaces_refl []⟩
    have read := read_spelling _ (spelling_texts members 126) (texts_distinct members keys) rfl
    rw [Schema.read, depthLimit]
    exact read
  · have distinct := texts_keys members keys
    rw [← List.append_nil (members.map _)] at distinct
    have order := arranged_members_perm_append [] _ distinct
    rw [List.append_nil, List.map_map] at order
    exact order

end Texts

end Json

namespace Http

/-- A post for a route behind the base of a client, to the path of the route if the base keeps it.
Its body is a text of an object, from which the given members are read and no others, and whoever it
is sent on to is told no more. -/
structure IsPost (client : Client) (route : Route) (members : List (String × String))
    (request : Request) : Prop where
  method : request.method = .post
  address : Address.read? (client.base ++ route.path).toList = some request.address
  path : AsksRoute route request.address ↔ Keeps client.base.toList
  cookie : request.cookie = client.cookie
  body : ∃ body, request.body = some body ∧
    Json.Spelling 1 (Json.ofTexts members) body.text.toList [] ∧
    ∃ read, Json.Schema.any.readText body.text = .ok (.obj read) ∧
      read.Perm (members.map fun member => (member.1, .str member.2))
  relayed : ∀ (network : Network), ∀ later ∈ network.trail request, request.Relays later

/-- A flag of nothing but blanks is refused unsent, and every other is sent without the blanks around
it. -/
structure HandsIn (client : Client) (tag flag : String) (sent : Sent Verdict) : Prop where
  unsent : sent.requests = [] ↔ ∀ c ∈ flag.toList, Text.isBlank c = true
  refused : sent.result = .error (.submit .blankFlag) ↔ ∀ c ∈ flag.toList, Text.isBlank c = true
  posted : (∃ c ∈ flag.toList, Text.isBlank c = false) → ∃ request inner,
    sent.requests = [request] ∧ Text.Strips flag.toList inner.toList ∧
      IsPost client .verifyFlag [("tag", tag), ("flag", inner)] request

section Calls

variable (client : Client) (server : Server)

theorem post_texts (route : Route) (members : List (String × String))
    (keys : (members.map Prod.fst).Nodup) (address : Address)
    (found : client.address route = .ok address) :
    ∃ request, (client.post server route (Json.ofTexts members)).requests = [request] ∧
      IsPost client route members request := by
  refine ⟨_, post_requests client server route _ address found, rfl,
    ((address_ok_iff client route address).mp found).1, asks_route_iff found, rfl, ?_, ?_⟩
  · exact ⟨_, rfl, Json.spelling_texts members 0, Json.read_texts members keys⟩
  · intro network
    exact (network.follow_follows Network.mostRedirects _).relays

/-- An action that is asked for does not fail for a blank flag. -/
theorem act_ne_blank (route : Route) (body : Json) :
    (client.act server route body).result ≠ .error (.submit .blankFlag) := by
  unfold Client.act Client.post
  cases client.address route with
  | error fault => simp [Sent.refused, Sent.andThen, Except.bind]
  | ok address =>
      dsimp only
      cases server ⟨.post, address, client.cookie, some body⟩ with
      | error fault => simp [Sent.andThen, Except.bind, Except.mapError]
      | ok response =>
          simp only [Sent.andThen, Except.bind, Except.mapError, Client.readVerdict]
          cases Reply.read response.text <;> simp

theorem submit_blank (tag flag : String) (blank : ∀ c ∈ flag.toList, Text.isBlank c = true) :
    client.submitFlag server tag flag = .refused (.submit .blankFlag) := by
  apply ask_unmeant client server (.submitFlag tag flag)
  simpa [Action.Meant] using blank

theorem submit_meant (tag flag : String) (meant : ∃ c ∈ flag.toList, Text.isBlank c = false) :
    client.submitFlag server tag flag = client.act server .verifyFlag
      (Json.ofTexts [("tag", tag), ("flag", Text.trimmed flag)]) :=
  ask_eq_act client server (.submitFlag tag flag) meant

theorem submit_hands_in (tag flag : String) (address : Address)
    (found : client.address .verifyFlag = .ok address) :
    HandsIn client tag flag (client.submitFlag server tag flag) := by
  by_cases blank : ∀ c ∈ flag.toList, Text.isBlank c = true
  · rw [submit_blank client server tag flag blank]
    refine ⟨iff_of_true rfl blank, iff_of_true rfl blank, ?_⟩
    intro meant
    obtain ⟨c, member, marked⟩ := meant
    rw [blank c member] at marked
    cases marked
  · have meant : ∃ c ∈ flag.toList, Text.isBlank c = false := by
      simpa using blank
    have apart : ([("tag", tag), ("flag", Text.trimmed flag)].map Prod.fst).Nodup := by
      change ["tag", "flag"].Nodup
      decide
    rw [submit_meant client server tag flag meant]
    obtain ⟨request, sent, posted⟩ := post_texts client server .verifyFlag
      [("tag", tag), ("flag", Text.trimmed flag)] apart address found
    refine ⟨iff_of_false ?_ blank, iff_of_false (act_ne_blank client server _ _) blank, ?_⟩
    · intro none
      rw [Client.act, Sent.andThen, sent] at none
      cases none
    · intro _
      refine ⟨request, Text.trimmed flag, sent, ?_, posted⟩
      rw [Text.toList_trimmed]
      exact Text.strips_trim flag.toList

end Calls

/-- What is typed is sent as it is, and nothing else is: tags and ids unchanged, flags without the
blanks around them, and a blank flag not at all. It is posted to the path of its route if the base
of the client has no query and no fragment and something for a host, and elsewhere if not. -/
theorem user_text_sent_exactly (client : Client)
    (built : ∀ route, ∃ address, client.address route = .ok address) (server : Server) :
    (∀ tag flag, HandsIn client tag flag (client.submitFlag server tag flag)) ∧
      (∀ tag, ∃ request, (client.resetChallenge server tag).requests = [request] ∧
        IsPost client .resetChallenge [("tag", tag)] request) ∧
      (∀ tag, ∃ request, (client.toggleChallenge server tag).requests = [request] ∧
        IsPost client .toggleChallenge [("tag", tag)] request) ∧
      ∀ id, ∃ request, (client.vpnDownload server id).requests = [request] ∧
        IsPost client .vpnDownload [("vpnConnID", id)] request := by
  have single (route : Route) (key text : String) : ∃ request,
      (client.post server route (Json.ofTexts [(key, text)])).requests = [request] ∧
        IsPost client route [(key, text)] request := by
    obtain ⟨address, found⟩ := built route
    exact post_texts client server route _ (List.nodup_singleton _) address found
  refine ⟨?_, ?_, ?_, ?_⟩
  · intro tag flag
    obtain ⟨address, found⟩ := built .verifyFlag
    exact submit_hands_in client server tag flag address found
  · exact single .resetChallenge "tag"
  · exact single .toggleChallenge "tag"
  · exact single .vpnDownload "vpnConnID"

/-- Quotes and backslashes are sent as they were typed, and so is a wide blank inside a flag, whereas
nothing is sent for one alone. -/
theorem user_text_sent_exactly_quoted :
    let server : Server := fun _ => .ok ⟨200, []⟩
    (∃ request, (Client.submitFlag ⟨"http://[::1]", none⟩ server "a\"b"
        "\t f\\\",\u3000g \n").requests = [request] ∧
      AsksRoute .verifyFlag request.address ∧
      IsPost ⟨"http://[::1]", none⟩ .verifyFlag [("tag", "a\"b"), ("flag", "f\\\",\u3000g")]
        request) ∧
      (Client.submitFlag ⟨"http://[::1]", none⟩ server "a\"b" "\u3000").requests = [] := by
  intro server
  have built : ∀ route, ∃ address,
      (Client.mk "http://[::1]" none).address route = .ok address := by
    intro route
    cases route <;> exact ⟨_, by cbv⟩
  obtain ⟨flags, _⟩ := user_text_sent_exactly ⟨"http://[::1]", none⟩ built server
  have keeps : Keeps "http://[::1]".toList :=
    ⟨by decide, by decide, ':', by decide, by decide, by decide, by decide⟩
  constructor
  · obtain ⟨request, inner, sent, strips, posted⟩ :=
      (flags "a\"b" "\t f\\\",\u3000g \n").posted ⟨'f', by decide, by decide⟩
    have same : inner.toList = "f\\\",\u3000g".toList :=
      ((Text.strips_iff _ _).mp strips).symm.trans (by cbv)
    rw [String.toList_injective same] at posted
    exact ⟨request, sent, posted.path.mpr keeps, posted⟩
  · exact (flags "a\"b" "\u3000").unsent.mpr (by simp [Text.isBlank])

/-- Behind a base with a query a flag is posted to another path than that of its route. -/
theorem typed_flag_posted_elsewhere :
    ∃ client, Client.new "http://[::1]:8080/?q=" none = .ok client ∧
      (∀ route, ∃ address, client.address route = .ok address) ∧
      ∃ request, (client.submitFlag (fun _ => .ok ⟨200, []⟩) "web" "x").requests = [request] ∧
        request.address.path = ['/'] ∧ request.address.query = some "q=/flags/verify".toList ∧
        ¬ AsksRoute .verifyFlag request.address := by
  have built : ∀ route, ∃ address,
      (Client.mk "http://[::1]:8080/?q=" none).address route = .ok address := by
    intro route
    cases route <;> exact ⟨_, by cbv⟩
  have found : (Client.mk "http://[::1]:8080/?q=" none).address .verifyFlag =
      .ok ⟨"http".toList, some "[::1]:8080".toList, ['/'],
        some "q=/flags/verify".toList, none⟩ := by cbv
  have posted := submit_meant (Client.mk "http://[::1]:8080/?q=" none) (fun _ => .ok ⟨200, []⟩)
    "web" "x" ⟨'x', by decide, by decide⟩
  have sent := post_requests (Client.mk "http://[::1]:8080/?q=" none) (fun _ => .ok ⟨200, []⟩)
    .verifyFlag (Json.ofTexts [("tag", "web"), ("flag", Text.trimmed "x")]) _ found
  refine ⟨_, by rfl, built, _, (congrArg Sent.requests posted).trans sent, rfl, rfl, ?_⟩
  intro asks
  cases asks.query

end Http

end FlagBoard
