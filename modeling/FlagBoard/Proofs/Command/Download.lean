import FlagBoard.Command.Run
import FlagBoard.Proofs.Command.Saving
import FlagBoard.Proofs.Http.Redirects
import FlagBoard.Proofs.Http.Session
import FlagBoard.Proofs.Http.Verdict
import FlagBoard.Proofs.Team.SlotNames
import Mathlib

/-!
The download of a configuration. A file is written only at the end, when the client was built, a
path was found for the file and the platform has answered with a status of success; whatever fails
leaves the disk as it was. It is asked for once, and once more for each redirect.
-/

namespace FlagBoard

namespace Http

section Answers

variable (client : Client) (server : Server) (id : String)

/-- The request for the configuration of a slot is answered. -/
def Answers (response : Response) : Prop :=
  ∃ address, client.address .vpnDownload = .ok address ∧
    server ⟨.post, address, client.cookie, some (slotBody id)⟩ = .ok response

theorem post_download_iff (response : Response) :
    (client.post server .vpnDownload (slotBody id)).result = .ok response ↔
      Answers client server id response :=
  post_ok_iff client server .vpnDownload (slotBody id) response

/-- A configuration is the text of a reply with a status of success. -/
theorem download_ok_iff (text : String) : (client.vpnDownload server id).result = .ok text ↔
    ∃ response, Answers client server id response ∧ Succeeds response.status ∧
      response.text = text := by
  rw [Client.vpnDownload, Sent.andThen]
  cases posted : (client.post server .vpnDownload (slotBody id)).result with
  | error failure =>
      simp only [Except.bind, ← post_download_iff, posted, reduceCtorEq, false_and, exists_false]
  | ok response =>
      simp only [Except.bind, ← post_download_iff, posted, Except.ok.injEq, exists_eq_left',
        Client.requireSuccess, Response.isSuccess, Succeeds, Bool.and_eq_true, decide_eq_true_eq]
      split <;> simp [Except.map, *]

/-- All else is a failure of the transport, or of the status of a reply. -/
theorem download_error {failure : Failure}
    (failed : (client.vpnDownload server id).result = .error failure) :
    (∃ fault, failure = .transport fault) ∨ ∃ response, Answers client server id response ∧
      ¬ Succeeds response.status ∧
      failure = .status Route.vpnDownload.path response.status := by
  cases posted : (client.post server .vpnDownload (slotBody id)).result with
  | error fault =>
      rw [Client.vpnDownload, Sent.andThen, posted] at failed
      obtain rfl := Except.error.inj failed
      exact .inl (post_error client server posted)
  | ok response =>
      have answered := (post_download_iff client server id response).mp posted
      by_cases succeeds : Succeeds response.status
      · have done := (download_ok_iff client server id response.text).mpr
          ⟨response, answered, succeeds, rfl⟩
        rw [done] at failed
        cases failed
      · have refused := (download_needs_success client server id response posted).1 succeeds
        exact .inr ⟨response, answered, succeeds, Except.error.inj (failed.symm.trans refused)⟩

end Answers

end Http

namespace Command

open Http (Answers Succeeds)

section Download

variable (server : Http.Server) (events : List WatchEvent) (base : String)
  (session : Option String) (delay : Nat) (id : String) (output : Option String) (disk : Disk)

/-- The download of the configuration of a slot, to a given path or to the file for the slot. -/
def download : Report :=
  run ⟨server, events, disk⟩ ⟨base, session, delay, .call (.vpnDownload id output)⟩

/-- The client can be built, there is a path for the file, and the platform answers with a status of
success. -/
structure Delivers (path : String) (response : Http.Response) : Prop where
  built : ∃ client, Http.Client.new base session = .ok client ∧
    Answers client server id response
  found : output.or (configFileName id) = some path
  succeeds : Succeeds response.status

/-- Why a download fails. -/
inductive FailsBy : Failure → Prop
  | header : FailsBy .header
  | unknownSlot : FailsBy (.unknownSlot id)
  | transport (fault : TransportFault) : FailsBy (.transport fault)
  | status (status : Nat) : ¬ Succeeds status →
      FailsBy (.status Route.vpnDownload.path status)
  | write (path : String) (fault : WriteFault) : output.or (configFileName id) = some path →
      disk.locate path = .error fault → FailsBy (.write path fault)

/-- A download that writes one file or fails. -/
inductive Ends (report : Report) : Prop
  | saved (path : String) (place : Place) (response : Http.Response) :
      Delivers server base session id output path response → disk.locate path = .ok place →
      report.failure = none → report.written = [(place, response.text)] →
      disk.Writes place response.text report.disk → Ends report
  | failed (failure : Failure) : FailsBy id output disk failure →
      (∀ path place response, Delivers server base session id output path response →
        disk.locate path ≠ .ok place) →
      report.failure = some failure → report.written = [] → report.disk = disk → Ends report

variable {server base session id output disk}

theorem delivers_unique {path other : String} {response another : Http.Response}
    (first : Delivers server base session id output path response)
    (second : Delivers server base session id output other another) :
    path = other ∧ response = another := by
  obtain ⟨client, made, address, asked, answer⟩ := first.built
  obtain ⟨client', made', address', asked', answer'⟩ := second.built
  obtain rfl := Except.ok.inj (made.symm.trans made')
  obtain rfl := Except.ok.inj (asked.symm.trans asked')
  exact ⟨Option.some.inj (first.found.symm.trans second.found),
    Except.ok.inj (answer.symm.trans answer')⟩

theorem download_of_client {client : Http.Client}
    (made : Http.Client.new base session = .ok client) :
    download server events base session delay id output disk =
      ask ⟨server, events, disk⟩ client (.vpnDownload id output) := by
  simp only [download, run, made]

theorem save_config_stuck {path : String} {report : Report} {fault : WriteFault}
    (stuck : report.disk.locate path = .error fault) (content : String) :
    saveConfig path content report = { report with failure := some (.write path fault) } := by
  rw [saveConfig, stuck]

theorem save_config_free {path : String} {report : Report} {place : Place}
    (free : report.disk.locate path = .ok place) (content : String) :
    saveConfig path content report =
      { report with
          written := report.written ++ [(place, content)]
          disk := report.disk.put place content } := by
  rw [saveConfig, free]

/-- A download that is not answered with success leaves everything as it was. -/
theorem ends_of_error {client : Http.Client} {path : String} {failure : Failure}
    (made : Http.Client.new base session = .ok client)
    (got : (client.vpnDownload server id).result = .error failure) :
    Ends server base session id output disk
      (conclude ⟨server, events, disk⟩ (client.vpnDownload server id) (saveConfig path)) := by
  rw [conclude, got]
  refine .failed failure ?_ ?_ rfl rfl rfl
  · rcases Http.download_error client server id got with ⟨fault, rfl⟩ | ⟨_, _, fails, rfl⟩
    · exact .transport fault
    · exact .status _ fails
  · intro other place response delivers _
    obtain ⟨own, same, answered⟩ := delivers.built
    obtain rfl := Except.ok.inj (same.symm.trans made)
    have done := (Http.download_ok_iff own server id response.text).mpr
      ⟨response, answered, delivers.succeeds, rfl⟩
    rw [done] at got
    cases got

/-- A delivery is saved where its path leads, or nowhere if it leads to no place. -/
theorem ends_of_delivery {path : String} {response : Http.Response}
    (delivers : Delivers server base session id output path response)
    (requests : List Http.Request) :
    Ends server base session id output disk
      (saveConfig path response.text (silent ⟨server, events, disk⟩ requests)) := by
  cases leads : disk.locate path with
  | error fault =>
      rw [save_config_stuck leads]
      refine .failed _ (.write path fault delivers.found leads) ?_ rfl rfl rfl
      intro other place another again reached
      obtain ⟨rfl, _⟩ := delivers_unique delivers again
      rw [leads] at reached
      cases reached
  | ok place =>
      rw [save_config_free leads]
      obtain ⟨_, _, _, _, _, _, reached⟩ := Disk.locate_through leads
      exact .saved path place response delivers leads rfl rfl
        (disk.writes_put reached.named response.text)

/-- The result of asking decides between a file and none. -/
theorem download_ends_asked {client : Http.Client} {path : String}
    (made : Http.Client.new base session = .ok client)
    (found : output.or (configFileName id) = some path) :
    Ends server base session id output disk
      (download server events base session delay id output disk) := by
  rw [download_of_client events delay made, ask, found]
  cases got : (client.vpnDownload server id).result with
  | error failure => exact ends_of_error events made got
  | ok text =>
      obtain ⟨response, answered, succeeds, rfl⟩ :=
        (Http.download_ok_iff client server id text).mp got
      dsimp only
      rw [conclude, got]
      exact ends_of_delivery events ⟨⟨client, made, answered⟩, found, succeeds⟩ _

theorem download_unnamed {client : Http.Client}
    (made : Http.Client.new base session = .ok client)
    (nameless : output.or (configFileName id) = none) :
    download server events base session delay id output disk =
      refused ⟨server, events, disk⟩ (.unknownSlot id) := by
  rw [download_of_client events delay made, ask, nameless]

theorem download_unbuilt {failure : Failure}
    (unmade : Http.Client.new base session = .error failure) :
    download server events base session delay id output disk =
      refused ⟨server, events, disk⟩ failure := by
  simp only [download, run, unmade]

theorem download_ends : Ends server base session id output disk
    (download server events base session delay id output disk) := by
  cases made : Http.Client.new base session with
  | error failure =>
      obtain ⟨rfl, _⟩ := Http.new_error made
      rw [download_unbuilt events delay made]
      refine .failed _ .header ?_ rfl rfl rfl
      intro path place response delivers _
      obtain ⟨client, built, _⟩ := delivers.built
      rw [made] at built
      cases built
  | ok client =>
      cases found : output.or (configFileName id) with
      | none =>
          rw [download_unnamed events delay made found]
          refine .failed _ .unknownSlot ?_ rfl rfl rfl
          intro path place response delivers _
          rw [delivers.found] at found
          cases found
      | some path => exact download_ends_asked events delay made found

/-- What is written is what was delivered, where its path leads. -/
theorem written_iff {report : Report} (ends : Ends server base session id output disk report)
    (place : Place) (content : String) :
    report.written = [(place, content)] ↔ ∃ path response,
      Delivers server base session id output path response ∧
        disk.locate path = .ok place ∧ response.text = content := by
  cases ends with
  | saved path own response delivers leads _ written _ =>
      rw [written]
      constructor
      · intro same
        cases same
        exact ⟨path, response, delivers, leads, rfl⟩
      · rintro ⟨other, another, again, reached, rfl⟩
        obtain ⟨rfl, rfl⟩ := delivers_unique delivers again
        rw [Except.ok.inj (leads.symm.trans reached)]
  | failed _ _ undelivered _ nothing _ =>
      rw [nothing]
      constructor
      · intro same
        cases same
      · rintro ⟨path, response, delivers, leads, _⟩
        exact absurd leads (undelivered path place response delivers)

/-- What is asked for a download, by a client that knows where to save it. -/
theorem download_requests {client : Http.Client} {path : String}
    (made : Http.Client.new base session = .ok client)
    (found : output.or (configFileName id) = some path) :
    (download server events base session delay id output disk).requests =
      (client.post server .vpnDownload (slotBody id)).requests := by
  rw [download_of_client events delay made, ask, found]
  exact Http.conclude_requests _ (client.vpnDownload server id) _ (Http.save_config_requests path)

theorem download_asks_once :
    (download server events base session delay id output disk).requests.length ≤ 1 := by
  cases made : Http.Client.new base session with
  | error failure =>
      rw [download_unbuilt events delay made]
      exact Nat.zero_le 1
  | ok client =>
      cases found : output.or (configFileName id) with
      | none =>
          rw [download_unnamed events delay made found]
          exact Nat.zero_le 1
      | some path =>
          rw [download_requests events delay made found]
          exact Http.post_requests_length client server .vpnDownload (slotBody id)

/-- A delivery is the reply to the one request that was made for it. -/
theorem download_delivered {path : String} {response : Http.Response}
    (delivers : Delivers server base session id output path response) :
    ∃ request, (download server events base session delay id output disk).requests = [request] ∧
      server request = .ok response := by
  obtain ⟨client, made, address, asked, answer⟩ := delivers.built
  refine ⟨_, ?_, answer⟩
  rw [download_requests events delay made delivers.found,
    Http.post_requests client server _ _ address asked]

end Download

section Networks

variable (network : Http.Network)

def allSent (report : Report) : List Http.Request := report.requests.flatMap network.trail

theorem all_sent_few (report : Report) (once : report.requests.length ≤ 1) :
    (allSent network report).length ≤ 1 + Http.Network.mostRedirects ∧
      (allSent network report).IsChain network.Leads := by
  cases asked : report.requests with
  | nil => simp [allSent, asked]
  | cons request more =>
      obtain rfl : more = [] := by simpa [asked] using once
      have follows := network.follow_follows Http.Network.mostRedirects request
      have all : allSent network report = network.trail request := by simp [allSent, asked]
      rw [all, Http.Network.trail, Nat.add_comm]
      exact ⟨follows.few, follows.chain⟩

/-- How a download saves a reply or leaves everything as it was. -/
structure SavesOrLeaves (base : String) (session : Option String) (id : String)
    (output : Option String) (disk : Disk) (report : Report) : Prop where
  /-- A file is written for a reply of success, where its path leads. -/
  written : ∀ place content, report.written = [(place, content)] ↔ ∃ path response,
    Delivers network.server base session id output path response ∧
      disk.locate path = .ok place ∧ response.text = content
  saved : report.failure = none → ∃ place content, report.written = [(place, content)] ∧
    disk.Writes place content report.disk
  failed : ∀ failure, report.failure = some failure →
    FailsBy id output disk failure ∧ report.written = [] ∧ report.disk = disk
  unnamed : ∀ client, Http.Client.new base session = .ok client → output = none →
    configFileName id = none → report.failure = some (.unknownSlot id) ∧ report.requests = []
  /-- The file for a slot is saved in the home folder, if it can be written there. -/
  ownFile : output = none → ∀ path response,
    Delivers network.server base session id output path response →
      configFileName id = some path ∧
        (report.written = [(path.toList :: disk.home, response.text)] ↔
          disk.Open (path.toList :: disk.home))
  once : report.requests.length ≤ 1
  few : (allSent network report).length ≤ 1 + Http.Network.mostRedirects
  /-- Nothing is asked again but for a redirect. -/
  chain : (allSent network report).IsChain network.Leads
  direct : (∀ request answer, network request = some answer → answer.redirect = none) →
    allSent network report = report.requests
  /-- The reply that is saved is that to the last request. -/
  last : ∀ path response, Delivers network.server base session id output path response →
    ∃ request redirect, (allSent network report).getLast? = some request ∧
      network request = some ⟨response, redirect⟩

end Networks

/-- The file for a slot is saved under its own name. -/
theorem locate_config {disk : Disk} {id path : String} (found : configFileName id = some path)
    (place : Place) : disk.locate path = .ok place ↔
      place = path.toList :: disk.home ∧ disk.Open (path.toList :: disk.home) := by
  obtain ⟨number, _, rfl⟩ := (config_file_name_iff id path).mp found
  refine Disk.locate_plain_iff (tame_slot_file number).slash ?_ ?_ ?_ <;>
    rw [slot_file_chars] <;> simp

/-- A download writes a file exactly if the client can be built, there is a path that leads to a
place for it, and the platform answers with a status of success; it is then one file, with the text
of the reply, and nothing fails. Every failure leaves the disk as it was. A slot without a name for
its file is told by a client that was built before anything is asked, and nothing is asked twice
unless a redirect wants it. -/
theorem failed_download_leaves_nothing (network : Http.Network) (events : List WatchEvent)
    (base : String) (session : Option String) (delay : Nat) (id : String) (output : Option String)
    (disk : Disk) :
    SavesOrLeaves network base session id output disk
      (download network.server events base session delay id output disk) := by
  have ends : Ends network.server base session id output disk
      (download network.server events base session delay id output disk) :=
    download_ends events delay
  have once : (download network.server events base session delay id output disk).requests.length ≤
      1 := download_asks_once events delay
  have delivered {path : String} {response : Http.Response}
      (delivers : Delivers network.server base session id output path response) : ∃ request,
      (download network.server events base session delay id output disk).requests = [request] ∧
        network.server request = .ok response := download_delivered events delay delivers
  have unnamed : ∀ client, Http.Client.new base session = .ok client → output = none →
      configFileName id = none →
        let report := download network.server events base session delay id output disk
        report.failure = some (.unknownSlot id) ∧ report.requests = [] := by
    rintro client made rfl nameless
    dsimp only
    rw [download_unnamed events delay made (Option.none_or.trans nameless)]
    exact ⟨rfl, rfl⟩
  generalize download network.server events base session delay id output disk = report at *
  have few := all_sent_few network report once
  constructor
  · exact written_iff ends
  · intro whole
    cases ends with
    | saved path place response _ _ _ written writes => exact ⟨place, _, written, writes⟩
    | failed failure _ _ told _ _ =>
        rw [told] at whole
        cases whole
  · intro failure told
    cases ends with
    | saved _ _ _ _ _ whole _ _ =>
        rw [whole] at told
        cases told
    | failed _ cause _ again nothing same =>
        obtain rfl := Option.some.inj (again.symm.trans told)
        exact ⟨cause, nothing, same⟩
  · exact unnamed
  · rintro rfl path response delivers
    have found : configFileName id = some path := Option.none_or.symm.trans delivers.found
    refine ⟨found, ?_⟩
    rw [written_iff ends]
    constructor
    · rintro ⟨other, another, again, leads, _⟩
      obtain ⟨rfl, rfl⟩ := delivers_unique delivers again
      exact ((locate_config found _).mp leads).2
    · intro free
      exact ⟨path, response, delivers, (locate_config found _).mpr ⟨rfl, free⟩, rfl⟩
  · exact once
  · exact few.1
  · exact few.2
  · intro direct
    have same : report.requests.flatMap network.trail = report.requests.flatMap fun r => [r] :=
      List.flatMap_congr fun request _ => network.trail_direct direct request
    rw [allSent, same, List.flatMap_singleton']
  · intro path response delivers
    obtain ⟨request, asked, answer⟩ := delivered delivers
    have all : allSent network report = network.trail request := by simp [allSent, asked]
    rw [all]
    exact (network.follow_follows Http.Network.mostRedirects request).answer response answer

/-- A reply that succeeds is saved in the folder that a path goes through, whatever the id. -/
theorem failed_download_leaves_nothing_saved :
    let network : Http.Network := fun _ => some ⟨Http.Response.ofText 200 "key", none⟩
    let disk : Disk := ⟨[(["etc".toList], .folder)], ["home".toList], fun _ => none⟩
    let report := download network.server [] "http://[::1]" none 0 "slot" (some "../etc//wg") disk
    report.written = [(["wg".toList, "etc".toList], "key")] ∧
      (allSent network report).length ≤ 1 + Http.Network.mostRedirects := by
  intro network disk report
  have result : SavesOrLeaves network "http://[::1]" none "slot" (some "../etc//wg") disk report :=
    failed_download_leaves_nothing network [] _ none 0 "slot" _ disk
  have asked : ∃ address, (Http.Client.mk "http://[::1]" none).address .vpnDownload =
      .ok address := ⟨_, by cbv⟩
  obtain ⟨address, asked⟩ := asked
  have delivers : Delivers network.server "http://[::1]" none "slot" (some "../etc//wg")
      "../etc//wg" (Http.Response.ofText 200 "key") :=
    ⟨⟨⟨"http://[::1]", none⟩, by rfl, address, asked, rfl⟩, rfl, by decide⟩
  have leads : disk.locate "../etc//wg" = .ok ["wg".toList, "etc".toList] := by rfl
  refine ⟨?_, result.few⟩
  rw [result.written]
  exact ⟨_, _, delivers, leads, Http.text_of_text 200 "key"⟩

/-- Where the client cannot be built this is told first, also of a slot without a name, and where a
reply sends on to another path a download is asked for twice. -/
theorem download_told_first_and_asked_twice :
    let network : Http.Network := fun request =>
      if request.address.path = ['/', 'x'] then some ⟨⟨200, []⟩, none⟩
      else some ⟨⟨307, []⟩, some
        ⟨⟨"http".toList, some "[::1]".toList, ['/', 'x'], none, none⟩, true⟩⟩
    let unbuilt := download network.server [] "http://[::1]" (some "\x01") 0 "nope" none .blank
    let moved := download network.server [] "http://[::1]" none 0 "conn_1" none .blank
    (configFileName "nope" = none ∧ unbuilt.failure = some .header ∧
      unbuilt.failure ≠ some (.unknownSlot "nope")) ∧
      (allSent network moved).map Http.Request.method = [.post, .post] := by
  intro network unbuilt moved
  have told : unbuilt.failure = some .header := by rfl
  have found : (Http.Client.mk "http://[::1]" none).address .vpnDownload =
      .ok ⟨"http".toList, some "[::1]".toList, "/vpn/download".toList, none, none⟩ := by cbv
  have asked : moved.requests = [⟨.post,
      ⟨"http".toList, some "[::1]".toList, "/vpn/download".toList, none, none⟩, none,
      some (slotBody "conn_1")⟩] := by
    have requests := Http.post_requests _ network.server .vpnDownload (slotBody "conn_1") _ found
    rw [← requests]
    exact download_requests [] 0 (by rfl) (by rfl)
  have strict : (⟨"http".toList, some "[::1]".toList, ['/', 'x'], none, none⟩ :
      Http.Address).isStrict = true := by rfl
  refine ⟨⟨by rfl, told, ?_⟩, ?_⟩
  · rw [told]
    decide
  · rw [allSent, asked, List.flatMap_singleton, Http.Network.trail, Http.Network.mostRedirects]
    rfl

end Command

end FlagBoard
