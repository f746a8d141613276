import SchemaAudit.Proofs.Lookup
import SchemaAudit.Rpc.Client

/-! # How a fetch ends

A fetch sends one request, whatever comes of it. What is told of it is told by what came (`EndsAs`, `fetch_ends`): a
document if the response tells of success and its body is one, another shape if the body is none, and no connection if
the request failed on its way or the response tells of no success. But a response that tells of another place by a scheme
and a path alone ends the fetch in a way that nobody expects. -/

namespace SchemaAudit

variable {r arrived : Response}

namespace Response

/-- The response arrives as another one: its headers can be sent, and its body is unpacked. -/
structure ArrivesAs (r arrived : Response) : Prop where
  ascii : r.unencodable? = none
  unpacked : r.unpacked = .ok arrived

theorem ArrivesAs.exists_body (h : r.ArrivesAs arrived) : ∃ body, arrived = { r with body := body } := by
  have hunpacked := h.unpacked
  cases hbody : Packed.unpack ((r.header? "content-encoding").getD "").toList r.body with
  | error fault =>
    simp only [Response.unpacked, hbody] at hunpacked
    cases hunpacked
  | ok body =>
    simp only [Response.unpacked, hbody] at hunpacked
    cases hunpacked
    exact ⟨body, rfl⟩

theorem ArrivesAs.isSuccess_eq (h : r.ArrivesAs arrived) : arrived.isSuccess = r.isSuccess := by
  obtain ⟨body, rfl⟩ := h.exists_body
  rfl

theorem ArrivesAs.status_eq (h : r.ArrivesAs arrived) : arrived.status = r.status := by
  obtain ⟨body, rfl⟩ := h.exists_body
  rfl

theorem ArrivesAs.location?_eq (h : r.ArrivesAs arrived) : arrived.location? = r.location? := by
  obtain ⟨body, rfl⟩ := h.exists_body
  rfl

theorem ArrivesAs.unique {arrived' : Response} (h : r.ArrivesAs arrived) (h' : r.ArrivesAs arrived') : arrived = arrived' :=
  Except.ok.inj (h.unpacked.symm.trans h'.unpacked)

/-- The response tells of another place that is none. -/
def IsLost [StandIns] (r : Response) : Prop := ∃ text fault, r.location? = some text ∧ Url.parse text = .error fault

/-- The response tells of another place by a scheme and a path alone, and the path does not start with a slash. -/
def IsMisplaced [StandIns] (r : Response) : Prop :=
  ∃ text url, r.location? = some text ∧ Url.parse text = .ok url ∧ url.scheme ≠ "" ∧ url.host = "" ∧
    url.path ≠ "" ∧ url.path.toList.head? ≠ some '/'

theorem location?_of_isSuccess (h : r.isSuccess = true) : r.location? = none := by
  simp only [isSuccess, Bool.and_eq_true, decide_eq_true_eq] at h
  rw [location?, if_neg]
  simp only [isElsewhere, List.contains_eq_mem, decide_eq_true_eq, List.mem_cons, List.not_mem_nil, or_false]
  omega

theorem not_isMisplaced_of_isSuccess [StandIns] (h : r.isSuccess = true) : ¬ r.IsMisplaced := by
  rintro ⟨text, url, htext, -⟩
  cases htext.symm.trans (location?_of_isSuccess h)

theorem not_isLost_of_isSuccess [StandIns] (h : r.isSuccess = true) : ¬ r.IsLost := by
  rintro ⟨text, fault, htext, -⟩
  cases htext.symm.trans (location?_of_isSuccess h)

end Response

theorem Url.checkPath_behind_host (path : String) (hasScheme : Bool) : checkPath path.toList hasScheme true =
    if path ≠ "" ∧ path.toList.head? ≠ some '/' then .error .pathNeedsSlash else .ok () := by
  by_cases hempty : path = ""
  · rw [hempty]
    rfl
  by_cases hslash : path.toList.head? = some '/'
  · simp [checkPath, hempty, hslash]
  · simp [checkPath, hempty, hslash]

/-- The ways in which a fetch may end. -/
inductive FetchEnding where
  | document (d : Diagnostics)
  | refused
  | misshapen
  /-- The place that the response names cannot be looked at. -/
  | misplaced
  | unanswered
  deriving DecidableEq, Repr

namespace FetchEnding

/-- What a fetch gives for each ending. -/
def Tells (result : Except Failure Diagnostics) : FetchEnding → Prop
  | document d => result = .ok d
  | refused => ∃ f, result = .error f ∧ f.kind = .connectivity
  | misshapen => ∃ f, result = .error f ∧ f.kind = .shape
  | misplaced => ∃ f, result = .error f ∧ f.kind = .unexpected "InvalidURL"
  | unanswered => ∃ f name, result = .error f ∧ f.kind = .unexpected name ∧ name ≠ "InvalidURL"

theorem Tells.unique {result : Except Failure Diagnostics} {e e' : FetchEnding} (h : e.Tells result)
    (h' : e'.Tells result) : e = e' := by
  cases e <;> cases e' <;> grind [Tells]

end FetchEnding

/-- How a fetch ends with what came of its request. -/
inductive EndsAs [StandIns] : Transported → FetchEnding → Prop where
  | failed (reason : String) : EndsAs (.failed reason) .refused
  | unsendable {r : Response} {u : Text.Unencodable} (h : r.unencodable? = some u) : EndsAs (.response r) .unanswered
  | packed {r : Response} {fault : Packed.Fault} (ascii : r.unencodable? = none) (h : r.unpacked = .error fault) :
      EndsAs (.response r) .refused
  | lost {r arrived : Response} (h : r.ArrivesAs arrived) (lost : r.IsLost) : EndsAs (.response r) .refused
  | misplaced {r arrived : Response} (h : r.ArrivesAs arrived) (misplaced : r.IsMisplaced) :
      EndsAs (.response r) .misplaced
  | unsuccessful {r arrived : Response} {text : List Char} (h : r.ArrivesAs arrived) (found : ¬ r.IsLost)
      (placed : ¬ r.IsMisplaced) (status : r.isSuccess = false) (htext : arrived.text = .ok text) :
      EndsAs (.response r) .refused
  | textless {r arrived : Response} {fault : TextFault} (h : r.ArrivesAs arrived) (found : ¬ r.IsLost)
      (placed : ¬ r.IsMisplaced) (status : r.isSuccess = false) (htext : arrived.text = .error fault) :
      EndsAs (.response r) .unanswered
  | document {r arrived : Response} {v : Json} {d : Diagnostics} (h : r.ArrivesAs arrived)
      (status : r.isSuccess = true) (hjson : arrived.json = .ok v) (hd : Diagnostics.ofJson v = .ok d) :
      EndsAs (.response r) (.document d)
  | otherShape {r arrived : Response} {v : Json} {e : ShapeError} (h : r.ArrivesAs arrived)
      (status : r.isSuccess = true) (hjson : arrived.json = .ok v) (he : Diagnostics.ofJson v = .error e) :
      EndsAs (.response r) .misshapen
  | notJson {r arrived : Response} (h : r.ArrivesAs arrived) (status : r.isSuccess = true)
      (hjson : arrived.json = .error .notJson) : EndsAs (.response r) .misshapen
  | tooDeep {r arrived : Response} {e : Json.SyntaxError} (h : r.ArrivesAs arrived) (status : r.isSuccess = true)
      (hjson : arrived.json = .error (.tooDeep e)) : EndsAs (.response r) .unanswered

theorem exists_endsAs [StandIns] (outcome : Transported) : ∃ ending, EndsAs outcome ending := by
  cases outcome with
  | failed reason => exact ⟨_, .failed reason⟩
  | response r =>
    cases hascii : r.unencodable? with
    | some u => exact ⟨_, .unsendable hascii⟩
    | none =>
      cases hunpacked : r.unpacked with
      | error fault => exact ⟨_, .packed hascii hunpacked⟩
      | ok arrived =>
        have harrives : r.ArrivesAs arrived := ⟨hascii, hunpacked⟩
        cases hstatus : r.isSuccess with
        | true =>
          cases hjson : arrived.json with
          | error fault =>
            cases fault with
            | notJson => exact ⟨_, .notJson harrives hstatus hjson⟩
            | tooDeep e => exact ⟨_, .tooDeep harrives hstatus hjson⟩
          | ok v =>
            cases hd : Diagnostics.ofJson v with
            | error e => exact ⟨_, .otherShape harrives hstatus hjson hd⟩
            | ok d => exact ⟨_, .document harrives hstatus hjson hd⟩
        | false =>
          by_cases hlost : r.IsLost
          · exact ⟨_, .lost harrives hlost⟩
          by_cases hmisplaced : r.IsMisplaced
          · exact ⟨_, .misplaced harrives hmisplaced⟩
          cases htext : arrived.text with
          | error fault => exact ⟨_, .textless harrives hlost hmisplaced hstatus htext⟩
          | ok text => exact ⟨_, .unsuccessful harrives hlost hmisplaced hstatus htext⟩

theorem endsAs_document_iff [StandIns] (h : r.ArrivesAs arrived) (d : Diagnostics) :
    EndsAs (.response r) (.document d) ↔
    r.isSuccess = true ∧ ∃ v, arrived.json = .ok v ∧ Diagnostics.ofJson v = .ok d := by
  constructor
  · intro hends
    cases hends with
    | document h' status hjson hd =>
      cases h.unique h'
      exact ⟨status, _, hjson, hd⟩
  · rintro ⟨status, v, hjson, hd⟩
    exact .document h status hjson hd

theorem endsAs_misshapen_iff [StandIns] (h : r.ArrivesAs arrived)
    (shallow : r.isSuccess = true → ∀ e, arrived.json ≠ .error (.tooDeep e)) : EndsAs (.response r) .misshapen ↔
      r.isSuccess = true ∧ ∀ v d, arrived.json = .ok v → Diagnostics.ofJson v ≠ .ok d := by
  constructor
  · intro hends
    cases hends with
    | otherShape h' status hjson he =>
      cases h.unique h'
      refine ⟨status, fun v d hv hd => ?_⟩
      cases hjson.symm.trans hv
      cases he.symm.trans hd
    | notJson h' status hjson =>
      cases h.unique h'
      exact ⟨status, fun v d hv => nomatch hjson.symm.trans hv⟩
  · rintro ⟨status, hnone⟩
    cases hjson : arrived.json with
    | error fault =>
      cases fault with
      | notJson => exact .notJson h status hjson
      | tooDeep e => exact absurd hjson (shallow status e)
    | ok v =>
      cases hd : Diagnostics.ofJson v with
      | ok d => exact absurd hd (hnone v d hjson)
      | error e => exact .otherShape h status hjson hd

theorem endsAs_refused_iff [StandIns] (h : r.ArrivesAs arrived) (placed : ¬ r.IsMisplaced)
    (readable : r.isSuccess = false → ∃ text, arrived.text = .ok text) :
    EndsAs (.response r) .refused ↔ r.isSuccess = false := by
  constructor
  · intro hends
    cases hends with
    | packed _ hpacked => cases hpacked.symm.trans h.unpacked
    | lost _ lost => exact Bool.eq_false_iff.mpr fun status => Response.not_isLost_of_isSuccess status lost
    | unsuccessful _ _ _ status _ => exact status
  · intro status
    by_cases hlost : r.IsLost
    · exact .lost h hlost
    · obtain ⟨text, htext⟩ := readable status
      exact .unsuccessful h hlost placed status htext

theorem TextFault.unanswered (fault : TextFault) :
    ∃ name, fault.failure.kind = .unexpected name ∧ name ≠ "InvalidURL" := by
  cases fault with
  | contentType fault =>
    cases fault with
    | mixedParts numberedFirst => cases numberedFirst <;> exact ⟨"TypeError", rfl, by decide⟩
    | nulInName => exact ⟨"ValueError", rfl, by decide⟩
  | encoding fault => cases fault <;> exact ⟨_, rfl, by simp [Text.DecodeFault.kindAndMessage]⟩

namespace RpcClient

variable {c : RpcClient} {request : Request}

/-! ### What is received -/

theorem checkLocation_of_isLost [StandIns] (c : RpcClient) (h : r.IsLost) :
    ∃ reason, c.checkLocation r = .error (.unreachable c.root reason) := by
  obtain ⟨text, fault, htext, hparse⟩ := h
  refine ⟨s!"Invalid URL in location header: {fault.message}.", ?_⟩
  rw [checkLocation, htext]
  simp only [hparse]
  rfl

theorem checkLocation_of_location [StandIns]
    (c : RpcClient) {text : String} {url : Url} (htext : r.location? = some text)
    (hparse : Url.parse text = .ok url) : c.checkLocation r =
      if url.scheme ≠ "" ∧ url.host = "" ∧ url.path ≠ "" ∧ url.path.toList.head? ≠ some '/' then
        .error (.location .pathNeedsSlash)
      else .ok () := by
  have hlook : c.checkLocation r = if url.scheme ≠ "" && url.host = "" then
      (Url.checkPath url.path.toList false true).mapError .location else .ok () := by
    rw [checkLocation, htext]
    simp only [hparse]
    rfl
  rw [hlook, Url.checkPath_behind_host]
  by_cases hplace : url.scheme ≠ "" ∧ url.host = ""
  · rw [if_pos (by simpa using hplace)]
    by_cases hpath : url.path ≠ "" ∧ url.path.toList.head? ≠ some '/'
    · rw [if_pos hpath, if_pos ⟨hplace.1, hplace.2, hpath⟩]
      rfl
    · rw [if_neg hpath, if_neg fun h => hpath h.2.2]
      rfl
  · rw [if_neg (by simpa using hplace), if_neg fun h => hplace ⟨h.1, h.2.1⟩]

theorem checkLocation_of_isMisplaced [StandIns] (c : RpcClient) (h : r.IsMisplaced) :
    c.checkLocation r = .error (.location .pathNeedsSlash) := by
  obtain ⟨text, url, htext, hparse, hplace⟩ := h
  rw [checkLocation_of_location c htext hparse, if_pos hplace]

theorem checkLocation_of_found [StandIns] (c : RpcClient) (found : ¬ r.IsLost) (placed : ¬ r.IsMisplaced) :
    c.checkLocation r = .ok () := by
  cases htext : r.location? with
  | none =>
    rw [checkLocation, htext]
    rfl
  | some text =>
    cases hparse : Url.parse text with
    | error fault => exact absurd ⟨text, fault, htext, hparse⟩ found
    | ok url => rw [checkLocation_of_location c htext hparse, if_neg fun h => placed ⟨text, url, htext, hparse, h⟩]

theorem received_of_unsendable [StandIns]
    {u : Text.Unencodable} (c : RpcClient) (request : Request) (h : r.unencodable? = some u) :
    c.received request (.response r) = .error (.header u) := by
  simp only [received, h]
  rfl

theorem received_of_packed [StandIns]
    {fault : Packed.Fault} (c : RpcClient) (request : Request) (ascii : r.unencodable? = none)
    (h : r.unpacked = .error fault) :
    c.received request (.response r) = .error (.unreachable c.root fault.message) := by
  simp only [received, ascii, h]
  rfl

theorem received_of_arrives [StandIns]
    (c : RpcClient) (habsolute : request.url.isAbsolute = true) (h : r.ArrivesAs arrived) :
    c.received request (.response r) = c.checkLocation r >>= fun _ => c.documentOf arrived := by
  have hcheck : c.checkLocation arrived = c.checkLocation r := by rw [checkLocation, checkLocation, h.location?_eq]
  rw [← hcheck]
  simp only [received, h.ascii, h.unpacked, habsolute]
  rfl

theorem received_of_found [StandIns]
    (c : RpcClient) (habsolute : request.url.isAbsolute = true) (h : r.ArrivesAs arrived)
    (found : ¬ r.IsLost) (placed : ¬ r.IsMisplaced) :
    c.received request (.response r) = c.documentOf arrived := by
  rw [received_of_arrives c habsolute h, checkLocation_of_found c found placed]
  rfl

theorem received_of_isSuccess [StandIns]
    (c : RpcClient) (habsolute : request.url.isAbsolute = true) (h : r.ArrivesAs arrived)
    (status : r.isSuccess = true) : c.received request (.response r) =
      match arrived.json with
      | .ok value => (Diagnostics.ofJson value).mapError .shape
      | .error .notJson => .error (.notJson c.routine)
      | .error (.tooDeep e) => .error (.tooDeep e) := by
  rw [received_of_found c habsolute h (Response.not_isLost_of_isSuccess status)
    (Response.not_isMisplaced_of_isSuccess status), documentOf, h.isSuccess_eq, if_pos status]
  rfl

theorem received_of_not_isSuccess [StandIns]
    (c : RpcClient) (habsolute : request.url.isAbsolute = true) (h : r.ArrivesAs arrived)
    (found : ¬ r.IsLost) (placed : ¬ r.IsMisplaced) (status : r.isSuccess = false) :
    c.received request (.response r) =
      match arrived.text with
      | .ok text => .error (.badStatus c.routine r.status text)
      | .error fault => .error (.noText fault) := by
  rw [received_of_found c habsolute h found placed, documentOf, h.isSuccess_eq, h.status_eq,
    if_neg (by simp [status])]
  cases arrived.text <;> rfl

/-! ### What is told -/

theorem told_result [StandIns] (c : RpcClient) (fetched : Except FetchFault Diagnostics) :
    (c.told fetched).result = fetched.mapError (·.failure) := by
  cases fetched <;> rfl

theorem tells_of_endsAs [StandIns] {outcome : Transported} {ending : FetchEnding} (c : RpcClient)
    (habsolute : request.url.isAbsolute = true) (h : EndsAs outcome ending) :
    ending.Tells (c.told (c.received request outcome)).result := by
  rw [told_result]
  cases h with
  | failed reason => exact ⟨_, rfl, rfl⟩
  | unsendable h =>
    rw [received_of_unsendable c request h]
    exact ⟨_, _, rfl, rfl, by decide⟩
  | packed ascii h =>
    rw [received_of_packed c request ascii h]
    exact ⟨_, rfl, rfl⟩
  | lost h lost =>
    obtain ⟨reason, hcheck⟩ := checkLocation_of_isLost c lost
    rw [received_of_arrives c habsolute h, hcheck]
    exact ⟨_, rfl, rfl⟩
  | misplaced h misplaced =>
    rw [received_of_arrives c habsolute h, checkLocation_of_isMisplaced c misplaced]
    exact ⟨_, rfl, rfl⟩
  | unsuccessful h found placed status htext =>
    rw [received_of_not_isSuccess c habsolute h found placed status, htext]
    exact ⟨_, rfl, rfl⟩
  | @textless _ _ fault h found placed status htext =>
    obtain ⟨name, hkind, hname⟩ := fault.unanswered
    rw [received_of_not_isSuccess c habsolute h found placed status, htext]
    exact ⟨_, name, rfl, hkind, hname⟩
  | document h status hjson hd =>
    rw [received_of_isSuccess c habsolute h status, hjson]
    simp only [hd]
    rfl
  | otherShape h status hjson he =>
    rw [received_of_isSuccess c habsolute h status, hjson]
    simp only [he]
    exact ⟨_, rfl, rfl⟩
  | notJson h status hjson =>
    rw [received_of_isSuccess c habsolute h status, hjson]
    exact ⟨_, rfl, rfl⟩
  | tooDeep h status hjson =>
    rw [received_of_isSuccess c habsolute h status, hjson]
    exact ⟨_, _, rfl, rfl, by decide⟩

theorem tells_iff_endsAs [StandIns] {outcome : Transported} {ending : FetchEnding} (c : RpcClient)
    (habsolute : request.url.isAbsolute = true) :
    ending.Tells (c.told (c.received request outcome)).result ↔ EndsAs outcome ending := by
  refine ⟨fun h => ?_, tells_of_endsAs c habsolute⟩
  obtain ⟨ending', h'⟩ := exists_endsAs outcome
  cases h.unique (tells_of_endsAs c habsolute h')
  exact h'

/-! ### Requests -/

/-- A network that answers a request as it will, having regard to those before, and keeps them all. -/
def recorded (answer : List Request → Request → Transported) (request : Request) : StateM (List Request) Transported := do
  let before ← get
  set (before ++ [request])
  return answer before request

/-- The client has an absolute address, and what it sends of it and of the key is in ASCII. -/
structure IsAccepted [StandIns] (c : RpcClient) (url : Url) : Prop where
  parse : Url.parse c.endpoint = .ok url
  absolute : url.isAbsolute = true
  key : Text.outsideAscii? c.key.toList = none
  place : Text.outsideAscii? url.place.toList = none

theorem request_of_isAccepted [StandIns] {url : Url} (h : c.IsAccepted url) : c.request = .ok ⟨"POST", url, "\x7b\x7d",
    [("Content-Type", "application/json"), ("apikey", c.key), ("Authorization", c.authorizationFor url)]⟩ := by
  have hsent : url.sent = url := by rw [Url.sent, if_pos h.absolute]
  have hparse : (Url.parse c.endpoint).mapError RequestFault.url = .ok url := by
    rw [h.parse]
    rfl
  simp [request, hparse, hsent, h.key, h.place, bind, Except.bind, pure, Except.pure]

theorem run_fetchOver_recorded [StandIns] (c : RpcClient) (hrequest : c.request = .ok request)
    (answer : List Request → Request → Transported) (before : List Request) :
    (c.fetchOver (recorded answer)).run before =
      (c.told (c.received request (answer before request)), before ++ [request]) := by
  rw [fetchOver, hrequest]
  rfl

/-- A fetch sends one request, the call of the routine with nothing in it, and none after that. What is told of it is how it
ends with what came of the request. If that is a response that arrives, a document is told exactly with success and a body
that is one, and then that one; another shape exactly with success and any other body, but one that is too deep; and no
connection exactly without success, unless the place that the response names cannot be looked at or it has no text. -/
theorem fetch_ends [StandIns]
    (c : RpcClient) {url : Url} (hc : c.IsAccepted url) (answer : List Request → Request → Transported)
    (before : List Request) :
    ∃ request told, (c.fetchOver (recorded answer)).run before = (told, before ++ [request]) ∧
      request.method = "POST" ∧ request.url = url ∧ request.body = "\x7b\x7d" ∧
      (∀ ending : FetchEnding, ending.Tells told.result ↔ EndsAs (answer before request) ending) ∧
      ∀ r arrived, answer before request = .response r → r.ArrivesAs arrived →
        (∀ d, (FetchEnding.document d).Tells told.result ↔
          r.isSuccess = true ∧ ∃ v, arrived.json = .ok v ∧ Diagnostics.ofJson v = .ok d) ∧
        ((r.isSuccess = true → ∀ e, arrived.json ≠ .error (.tooDeep e)) →
          (FetchEnding.misshapen.Tells told.result ↔
            r.isSuccess = true ∧ ∀ v d, arrived.json = .ok v → Diagnostics.ofJson v ≠ .ok d)) ∧
        (¬ r.IsMisplaced → (r.isSuccess = false → ∃ text, arrived.text = .ok text) →
          (FetchEnding.refused.Tells told.result ↔ r.isSuccess = false)) := by
  obtain ⟨request, hrequest, hmethod, hurl, hbody⟩ : ∃ request : Request, c.request = .ok request ∧
      request.method = "POST" ∧ request.url = url ∧ request.body = "\x7b\x7d" :=
    ⟨_, request_of_isAccepted hc, rfl, rfl, rfl⟩
  have htells (outcome : Transported) (ending : FetchEnding) :=
    @tells_iff_endsAs request _ outcome ending c (hurl ▸ hc.absolute)
  refine ⟨request, _, run_fetchOver_recorded c hrequest answer before, hmethod, hurl, hbody, htells _, ?_⟩
  intro r arrived hanswer h
  rw [hanswer]
  refine ⟨fun d => (htells _ _).trans (endsAs_document_iff h d), fun shallow => ?_, fun placed readable => ?_⟩
  · exact (htells _ _).trans (endsAs_misshapen_iff h shallow)
  · exact (htells _ _).trans (endsAs_refused_iff h placed readable)

/-- A client of some store. -/
def someClient : RpcClient := ⟨"https://p.example.co", "k", defaultRoutine, .finite false 30 0⟩

theorem isAccepted_someClient : someClient.IsAccepted
    ⟨"https", "", "p.example.co", none, "/rest/v1/rpc/get_system_diagnostics", none, none⟩ where
  parse := toOption_eq_some_iff.mp (by decide +kernel)
  absolute := by decide
  key := by decide
  place := by decide

/-- A response that tells of another place by the scheme `x` and the path `y`, and one without a place and with a byte that
is no text. -/
theorem fetch_ends_misplaced_and_refused :
    (∃ request told, (someClient.fetchOver (recorded fun _ _ => .response ⟨302, [("location", "x:y")], [0x72]⟩)).run [] =
      (told, [request]) ∧ FetchEnding.misplaced.Tells told.result) ∧
    ∃ request told, (someClient.fetchOver (recorded fun _ _ => .response ⟨404, [], [0xff]⟩)).run [] = (told, [request]) ∧
      FetchEnding.refused.Tells told.result := by
  constructor
  · obtain ⟨request, told, hrun, -, -, -, hends, -⟩ := fetch_ends someClient isAccepted_someClient
      (fun _ _ => .response ⟨302, [("location", "x:y")], [0x72]⟩) []
    have harrives : Response.ArrivesAs ⟨302, [("location", "x:y")], [0x72]⟩ ⟨302, [("location", "x:y")], [0x72]⟩ :=
      ⟨by decide +kernel, toOption_eq_some_iff.mp (by decide +kernel)⟩
    have hplace : Response.IsMisplaced ⟨302, [("location", "x:y")], [0x72]⟩ :=
      ⟨"x:y", ⟨"x", "", "", none, "y", none, none⟩, by decide +kernel, toOption_eq_some_iff.mp (by decide +kernel), by decide,
        rfl, by decide, by decide⟩
    exact ⟨request, told, hrun, (hends .misplaced).mpr (.misplaced harrives hplace)⟩
  · obtain ⟨request, told, hrun, -, -, -, -, harrived⟩ := fetch_ends someClient isAccepted_someClient
      (fun _ _ => .response ⟨404, [], [0xff]⟩) []
    have harrives : Response.ArrivesAs ⟨404, [], [0xff]⟩ ⟨404, [], [0xff]⟩ :=
      ⟨by decide +kernel, toOption_eq_some_iff.mp (by decide +kernel)⟩
    have hplace : ¬ Response.IsMisplaced ⟨404, [], [0xff]⟩ := fun ⟨_, _, htext, _⟩ => nomatch htext
    obtain ⟨-, -, hrefused⟩ := harrived _ _ rfl harrives
    have htext : Response.text ⟨404, [], [0xff]⟩ = .ok ['\uFFFD'] := toOption_eq_some_iff.mp (by decide +kernel)
    exact ⟨request, told, hrun, (hrefused hplace fun _ => ⟨_, htext⟩).mpr (by decide)⟩

end RpcClient

end SchemaAudit
