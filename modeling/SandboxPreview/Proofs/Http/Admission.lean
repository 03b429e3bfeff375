/-
# Admission of requests

Before a request is handled it is held to the limit of its path, twice. The length that it declares
is looked at first. Then, if its method sends a body, the chunks are counted while they arrive; what
counts is their total, so it does not matter where the body was cut. The loop reads no further than to
the chunk that exceeds the limit, and all chunks that it has collected until then are an initial part
of the body.

A declared length that is no number is passed over, with one exception: superscripts count as digits
but not as numbers, so a length that holds one breaks the request, and so does one with too many
digits.

## Main definitions

* `joined`, `Request.body`: the chunks put together;
* `Request.Declares`: the length that a request declares;
* `IsNumeral`, `IsBroken`: headers that are read as a length, and headers that break the request;
* `Request.Breaks`, `Request.Within`: requests that are broken by their declared length, and
  requests that keep to a limit;
* `Service.TurnsAway`: what a request is answered with when it is too large.

## Main results

* `collect_eq`: the loop over the chunks is a test of their total;
* `status_handleAdmitted`: no handler says that a body is too large;
* `body_limit_exact`: which requests are turned away;
* `length_header_guarded`: what becomes of a request for each length that it may declare.
-/
import Mathlib.Data.List.TakeWhile
import SandboxPreview.Http.Service
import SandboxPreview.Proofs.Text.Number

namespace SandboxPreview.Http

variable {s : Service} {now : Instant} {r : Request} {header : Text} {length? : Option Nat}

/-! ## Bodies -/

/-- The chunks one after another. -/
def joined (chunks : List ByteArray) : ByteArray := chunks.foldr (· ++ ·) .empty

/-- The whole body of a request. -/
def Request.body (r : Request) : ByteArray := joined r.chunks

@[simp] theorem joined_nil : joined [] = .empty := rfl

@[simp] theorem joined_cons (chunk : ByteArray) (chunks : List ByteArray) :
    joined (chunk :: chunks) = chunk ++ joined chunks := rfl

theorem foldl_append_eq (body : ByteArray) (chunks : List ByteArray) :
    chunks.foldl (· ++ ·) body = body ++ joined chunks := by
  induction chunks generalizing body with
  | nil => simp
  | cons chunk chunks ih => rw [List.foldl_cons, ih, joined_cons, ByteArray.append_assoc]

/-- The loop gives up exactly when the total exceeds the limit, wherever in the body that happens. -/
theorem collect_eq (limit : Int) (body : ByteArray) (chunks : List ByteArray) :
    collect limit body chunks =
      if limit < (body ++ joined chunks).size then none else some (body ++ joined chunks) := by
  induction chunks generalizing body with
  | nil => rw [collect, joined_nil, ByteArray.append_empty]
  | cons chunk chunks ih =>
    rw [collect, joined_cons, ← ByteArray.append_assoc]
    split
    case isTrue early =>
      -- The chunks that are not read any more only add to the total.
      have total : limit < (body ++ chunk ++ joined chunks).size := by
        rw [ByteArray.size_append]
        omega
      rw [if_pos total]
    case isFalse => exact ih (body ++ chunk)

/-! ## Declared lengths -/

/-- The name of the header that declares a length. -/
def lengthHeader : Text := "content-length"

/-- A superscript that counts as a digit. -/
def IsSuperscript (c : Char) : Prop := c = '\xb9' ∨ c = '\xb2' ∨ c = '\xb3'

/-- The header is a decimal number of no more digits than are read. -/
structure IsNumeral (header : Text) : Prop where
  nonempty : header ≠ []
  decimal : ∀ c ∈ header, c.isDigit = true
  short : header.length ≤ 4300

/-- The header is made of digits, but some of them are superscripts, or they are too many. -/
structure IsBroken (header : Text) : Prop where
  nonempty : header ≠ []
  digits : ∀ c ∈ header, c.isDigit = true ∨ IsSuperscript c
  unreadable : (∃ c ∈ header, IsSuperscript c) ∨ 4300 < header.length

/-- The crash is over the length that was declared. -/
def Crash.OfLength : Crash → Prop
  | .lengthNotDecimal _ | .lengthTooLong _ => True
  | .unwritableNumber | .loneSurrogate => False

/-- The length that the request declares breaks it. -/
def Request.Breaks (r : Request) : Prop :=
  ∃ header, r.header? lengthHeader = some header ∧ IsBroken header

/-- The length that a request declares: none without the header, else the number in it. -/
inductive Request.Declares (r : Request) : Option Nat → Prop
  | nothing (absent : r.header? lengthHeader = none) : Declares r none
  | number {header : Text} (found : r.header? lengthHeader = some header)
      (numeral : IsNumeral header) : Declares r (some (Text.valueOf 10 header))

theorem isDigitLike_iff {c : Char} : isDigitLike c = true ↔ c.isDigit = true ∨ IsSuperscript c := by
  simp only [isDigitLike, IsSuperscript, Bool.or_eq_true, beq_iff_eq]
  tauto

theorem not_isDigit_of_isSuperscript {c : Char} (superscript : IsSuperscript c) :
    c.isDigit = false := by
  rcases superscript with rfl | rfl | rfl <;> rfl

theorem IsNumeral.not_isBroken (numeral : IsNumeral header) : ¬ IsBroken header := by
  rintro ⟨-, -, ⟨c, member, superscript⟩ | long⟩
  · have decimal := numeral.decimal c member
    rw [not_isDigit_of_isSuperscript superscript] at decimal
    cases decimal
  · exact absurd numeral.short (by omega)

theorem declaredLength?_of_isNumeral (numeral : IsNumeral header) :
    declaredLength? (some header) = .ok (some (Text.valueOf 10 header)) := by
  have digits : header.all isDigitLike = true :=
    List.all_eq_true.mpr fun c member => isDigitLike_iff.mpr (Or.inl (numeral.decimal c member))
  have whole : header.takeWhile Char.isDigit = header :=
    List.takeWhile_eq_self_iff.mpr numeral.decimal
  have short : ¬ Json.digitLimit < header.length := Nat.not_lt.mpr numeral.short
  have value := Text.ofDigits_eq_valueOf numeral.decimal
  simp [declaredLength?, numeral.nonempty, digits, whole, short, value]

theorem declaredLength?_of_isBroken (broken : IsBroken header) :
    ∃ crash, declaredLength? (some header) = .error crash ∧ crash.OfLength := by
  have digits : header.all isDigitLike = true :=
    List.all_eq_true.mpr fun c member => isDigitLike_iff.mpr (broken.digits c member)
  rw [declaredLength?, if_pos ⟨broken.nonempty, digits⟩]
  dsimp only
  split
  case isTrue long => exact ⟨_, rfl, trivial⟩
  case isFalse short =>
    -- What is read ends at the first superscript, so it is not all of the header.
    have other : header.takeWhile Char.isDigit ≠ header := by
      intro whole
      rcases broken.unreadable with ⟨c, member, superscript⟩ | long
      · have decimal := List.takeWhile_eq_self_iff.mp whole c member
        rw [not_isDigit_of_isSuperscript superscript] at decimal
        cases decimal
      · exact short (by rwa [whole])
    rw [if_pos other]
    exact ⟨_, rfl, trivial⟩

/-- Whatever is neither read as a length nor breaks the request declares none. -/
theorem declaredLength?_of_other (numeral : ¬ IsNumeral header) (broken : ¬ IsBroken header) :
    declaredLength? (some header) = .ok none := by
  refine if_neg ?_
  rintro ⟨nonempty, digits⟩
  have each (c : Char) (member : c ∈ header) : c.isDigit = true ∨ IsSuperscript c :=
    isDigitLike_iff.mp (List.all_eq_true.mp digits c member)
  refine broken ⟨nonempty, each, ?_⟩
  by_contra readable
  obtain ⟨decimal, short⟩ := not_or.mp readable
  refine numeral ⟨nonempty, fun c member => ?_, Nat.not_lt.mp short⟩
  exact (each c member).resolve_right fun superscript => decimal ⟨c, member, superscript⟩

/-- A header that does not break the request declares the number in it, if it is one. -/
theorem exists_declaredLength? (broken : ¬ IsBroken header) :
    ∃ length?, declaredLength? (some header) = .ok length? ∧
      ∀ length, length? = some length ↔ IsNumeral header ∧ length = Text.valueOf 10 header := by
  by_cases numeral : IsNumeral header
  · exact ⟨_, declaredLength?_of_isNumeral numeral, by simp [numeral, eq_comm]⟩
  · exact ⟨_, declaredLength?_of_other numeral broken, by simp [numeral]⟩

theorem Request.Declares.declaredLength? (declares : r.Declares length?) :
    Http.declaredLength? (r.header? lengthHeader) = .ok length? := by
  cases declares with
  | nothing absent => rw [absent]; rfl
  | number found numeral => rw [found, declaredLength?_of_isNumeral numeral]

/-! ## Handlers -/

/-- The request is answered with the limit of its path, and nothing is done. -/
def Service.TurnsAway (s : Service) (now : Instant) (r : Request) : Prop :=
  s.handle now r = (s, .ok (.detail 413 (tooLarge (s.limits.of r.address.placedPath))))

theorem status_respond (answer : ProjectStore.Answer) : (Service.respond answer).status ≠ 413 := by
  cases answer <;> simp [Service.respond, Response.ok, Response.created, Response.removed]

theorem status_faultResponse (sid : Text) (fault : Session.Fault) :
    (faultResponse sid fault).status ≠ 413 := by
  rcases fault with e | e
  · simp [faultResponse, noSession, Response.detail]
  · cases e <;> simp [faultResponse, noProject, Response.detail]

theorem status_checked {α : Type} {body : Checked α} {handle : α → Service × Response}
    (each : ∀ a, (handle a).2.status ≠ 413) : (s.checked body handle).2.status ≠ 413 := by
  cases body with
  | ok a => exact each a
  | error issues => simp [Service.checked, issuesResponse]

theorem status_onStore (s : Service) (now : Instant) (sid : Text) (call : ProjectStore.Call) :
    (s.onStore now sid call Service.respond).2.status ≠ 413 := by
  rw [Service.onStore]
  split
  case h_1 => exact status_respond _
  case h_2 => exact status_faultResponse _ _

theorem status_handleEndpoint (s : Service) (now : Instant) (value : Option Json)
    (endpoint : Endpoint) : (s.handleEndpoint now value endpoint).2.status ≠ 413 := by
  cases endpoint with
  | extract | assemble | createSession =>
    exact status_checked fun _ => by simp [Response.ok, Response.created]
  | loadProject | recordLog => exact status_checked fun _ => status_onStore _ _ _ _
  | listProjects | removeProject | showLogs | clearLogs => exact status_onStore _ _ _ _
  | listSessions =>
    rw [Service.handleEndpoint]
    split <;> simp [Response.ok, Response.detail]
  | showSession id =>
    rw [Service.handleEndpoint]
    split <;> simp [Response.ok, noSession, Response.detail]
  | closeSession id =>
    rw [Service.handleEndpoint]
    split <;> simp [Response.removed, noSession, Response.detail]
  | showProject sid id =>
    rw [Service.handleEndpoint, Service.showProject]
    split
    case h_1 => simp [noSession, Response.detail]
    case h_2 => dsimp only; split <;> simp [Response.ok, noProject, Response.detail]
  | preview sid id =>
    rw [Service.handleEndpoint, Service.showPreview]
    split
    case h_1 => simp
    case h_2 => exact status_faultResponse _ _
  | listSimulators | health => simp [Service.handleEndpoint, Response.ok]

theorem status_of_route {method : Text} {a : Address} {response : Response}
    (routed : route method a = .error response) : response.status ≠ 413 := by
  rw [route] at routed
  split at routed
  · split at routed
    · cases routed
    · obtain rfl := Except.error.inj routed
      simp [Response.detail]
  · split at routed
    · obtain rfl := Except.error.inj routed
      simp
    · obtain rfl := Except.error.inj routed
      simp [Response.detail]

theorem status_of_readBody {body : ByteArray} {response : Response}
    (read : readBody r body = .error response) : response.status ≠ 413 := by
  have unreadable : unreadableBody.status ≠ 413 := by simp [unreadableBody, Response.detail]
  have refused (e : Json.ParseError) : (syntaxResponse e).status ≠ 413 := by
    rw [syntaxResponse]
    split
    case h_1 | h_2 => exact unreadable
    case h_3 => simp
  rw [readBody] at read
  split at read
  · cases read
  split at read
  · rw [readJson] at read
    split at read
    case h_1 =>
      obtain rfl := Except.error.inj read
      exact unreadable
    case h_2 text decoded =>
      cases parsed : Json.parseChars text with
      | ok value => simp [parsed, Except.mapError, Except.map] at read
      | error e =>
        obtain rfl : syntaxResponse e = response := by
          simpa [parsed, Except.mapError, Except.map] using read
        exact refused e
  · cases read

/-- Whatever a request is handled by, that its body is too large is said before. -/
theorem status_handleAdmitted (s : Service) (now : Instant) (r : Request) (body : ByteArray) :
    (s.handleAdmitted now r body).2.status ≠ 413 := by
  rw [Service.handleAdmitted]
  split
  case h_1 routed => exact status_of_route routed
  case h_2 =>
    split
    · split
      case h_1 read => exact status_of_readBody read
      case h_2 => exact status_handleEndpoint _ _ _ _
    · exact status_handleEndpoint _ _ _ _

theorem serve_ne (s : Service) (now : Instant) (r : Request) (body : ByteArray)
    (s' : Service) (reason : Text) : s.serve now r body ≠ (s', .ok (.detail 413 reason)) := by
  intro same
  rw [Service.serve] at same
  split at same
  · cases same
  · have answered := congrArg Prod.snd same
    dsimp only at answered
    split at answered
    · exact status_handleAdmitted s now r body (congrArg Response.status (Except.ok.inj answered))
    · cases answered

/-! ## Limits -/

/-- The request is larger than the limit: by the length that it declares, or by its body if its method
is counted. -/
def Request.Exceeds (r : Request) (limit : Int) (length? : Option Nat) : Prop :=
  (∃ length, length? = some length ∧ limit < length) ∨
    r.method ∈ countedMethods ∧ limit < r.body.size

/-- The request keeps to the limit: by the length that it declares, if that is a number, and by its body
if its method is counted. -/
structure Request.Within (r : Request) (limit : Int) : Prop where
  declared : ∀ header, r.header? lengthHeader = some header → IsNumeral header →
    Text.valueOf 10 header ≤ limit
  counted : r.method ∈ countedMethods → r.body.size ≤ limit

/-- A request whose declared length breaks nothing is admitted with its whole body, unless it exceeds
the limit. -/
theorem admission_of_readable (limit : Int)
    (read : declaredLength? (r.header? lengthHeader) = .ok length?) :
    (r.Exceeds limit length? → admission limit r = .ok none) ∧
      (¬ r.Exceeds limit length? → admission limit r = .ok (some r.body)) := by
  have read' : declaredLength? (r.header? "content-length") = .ok length? := read
  have counted : countedMethods.elem r.method = true ↔ r.method ∈ countedMethods :=
    List.elem_iff
  -- What the body comes to when the declared length is no obstacle.
  have total : (if countedMethods.elem r.method = true then
        (Except.ok (collect limit .empty r.chunks) : Except Crash (Option ByteArray))
      else .ok (some (r.chunks.foldl (· ++ ·) .empty))) =
      .ok (if r.method ∈ countedMethods ∧ limit < r.body.size then none else some r.body) := by
    rw [collect_eq, foldl_append_eq, ByteArray.empty_append, ← Request.body]
    simp only [counted]
    split_ifs <;> simp_all
  rw [admission, read', Request.Exceeds]
  simp only [bind, Except.bind, pure, Except.pure]
  cases length? with
  | none =>
    rw [total]
    simp
  | some length =>
    by_cases large : limit < length
    · simp [large]
    · dsimp only
      rw [if_neg large, total]
      simp [large]

/-- What a request is answered with unless its declared length breaks it. -/
theorem handle_of_readable (s : Service) (now : Instant) (r : Request)
    (read : declaredLength? (r.header? lengthHeader) = .ok length?) :
    (s.TurnsAway now r ↔ r.Exceeds (s.limits.of r.address.placedPath) length?) ∧
      (¬ s.TurnsAway now r → s.handle now r = s.serve now r r.body) := by
  obtain ⟨refused, admitted⟩ := admission_of_readable (s.limits.of r.address.placedPath) read
  by_cases exceeds : r.Exceeds (s.limits.of r.address.placedPath) length?
  · have away : s.TurnsAway now r := by
      rw [Service.TurnsAway, Service.handle]
      simp only [refused exceeds]
    exact ⟨iff_of_true away exceeds, fun stays => absurd away stays⟩
  · have served : s.handle now r = s.serve now r r.body := by
      rw [Service.handle]
      simp only [admitted exceeds]
    refine ⟨iff_of_false (fun away => ?_) exceeds, fun _ => served⟩
    exact serve_ne s now r r.body _ _ (served.symm.trans away)

/-- A header that breaks a request does so before anything is done. -/
theorem handle_of_isBroken (s : Service) (now : Instant)
    (found : r.header? lengthHeader = some header) (broken : IsBroken header) :
    ∃ crash, s.handle now r = (s, .error crash) ∧ crash.OfLength := by
  obtain ⟨crash, read, length⟩ := declaredLength?_of_isBroken broken
  have read' : declaredLength? (r.header? "content-length") = .error crash := found ▸ read
  refine ⟨crash, ?_, length⟩
  rw [Service.handle, admission, read']
  rfl

/-- A request that is served does not break off over its length. -/
theorem not_ofLength_of_serve {body : ByteArray} {crash : Crash}
    (broken : (s.serve now r body).2 = .error crash) : ¬ crash.OfLength := by
  rw [Service.serve] at broken
  split at broken
  · obtain rfl := Except.error.inj broken
    exact id
  · dsimp only at broken
    split at broken
    · cases broken
    · obtain rfl := Except.error.inj broken
      exact id

/-- The limit of its path turns a request away exactly when the length that it declares exceeds it or
its body does, and all others are handled with their body as it was sent. Where the body is cut into
chunks makes no difference. -/
theorem body_limit_exact (s : Service) (now : Instant) (counted : r.method ∈ countedMethods)
    (declares : r.Declares length?) :
    (s.TurnsAway now r ↔
      (∃ length, length? = some length ∧ s.limits.of r.address.placedPath < length) ∨
        s.limits.of r.address.placedPath < r.body.size) ∧
      (¬ s.TurnsAway now r → s.handle now r = s.serve now r r.body) ∧
      ∀ chunks, joined chunks = r.body →
        s.handle now { r with chunks } = s.handle now r := by
  have read := declares.declaredLength?
  obtain ⟨turned, served⟩ := handle_of_readable s now r read
  rw [Request.Exceeds] at turned
  refine ⟨by simpa [counted] using turned, served, fun chunks same => ?_⟩
  obtain ⟨turned', served'⟩ := handle_of_readable s now { r with chunks } read
  -- Both requests have the same method, path, headers and body.
  have alike : s.TurnsAway now { r with chunks } ↔ s.TurnsAway now r := by
    rw [turned, turned', Request.Exceeds, ← same]
    rfl
  by_cases away : s.TurnsAway now r
  · exact (alike.mpr away).trans away.symm
  · rw [served away, served' (mt alike.mp away), ← same]
    rfl

/-- With a header that does not break it, a request is held to the number in it and to its body. -/
theorem handle_of_not_isBroken (s : Service) (now : Instant) (r : Request)
    (found : r.header? lengthHeader = some header) (whole : ¬ IsBroken header) :
    (s.TurnsAway now r ↔
      (IsNumeral header ∧ s.limits.of r.address.placedPath < Text.valueOf 10 header) ∨
        r.method ∈ countedMethods ∧ s.limits.of r.address.placedPath < r.body.size) ∧
      (¬ s.TurnsAway now r → s.handle now r = s.serve now r r.body) := by
  obtain ⟨length?, read, declared⟩ := exists_declaredLength? whole
  obtain ⟨turned, served⟩ := handle_of_readable s now r (found ▸ read)
  refine ⟨?_, served⟩
  rw [turned, Request.Exceeds]
  simp only [declared, and_assoc, exists_and_left, exists_eq_left]

/-- A request within its limit is served, unless its declared length breaks it. -/
theorem handle_of_within (s : Service) (now : Instant)
    (within : r.Within (s.limits.of r.address.placedPath)) (whole : ¬ r.Breaks) :
    s.handle now r = s.serve now r r.body := by
  have small : ¬ (r.method ∈ countedMethods ∧
      s.limits.of r.address.placedPath < r.body.size) := fun exceeds =>
    Int.not_lt.mpr (within.counted exceeds.1) exceeds.2
  cases found : r.header? lengthHeader with
  | none =>
    have read : declaredLength? (r.header? lengthHeader) = .ok none := by rw [found]; rfl
    obtain ⟨turned, served⟩ := handle_of_readable s now r read
    exact served (mt turned.mp (by simpa [Request.Exceeds] using small))
  | some header =>
    obtain ⟨turned, served⟩ :=
      handle_of_not_isBroken s now r found fun broken => whole ⟨header, found, broken⟩
    refine served (mt turned.mp ?_)
    rintro (⟨numeral, large⟩ | exceeds)
    · exact Int.not_lt.mpr (within.declared header found numeral) large
    · exact small exceeds

/-- Five bytes in three chunks are one too many for a limit of four, and as many as a limit of five
allows. -/
theorem body_limit_exact_in_chunks :
    let r : Request := ⟨"POST", "/sessions", [("content-length", "005")],
      [⟨#[97, 98]⟩, .empty, ⟨#[99, 100, 101]⟩]⟩
    let strict : Service := { limits := ⟨10, 4⟩ }
    let wide : Service := { limits := ⟨10, 5⟩ }
    r.method ∈ countedMethods ∧ r.Declares (some 5) ∧ strict.TurnsAway 0 r ∧
      wide.handle 0 r = wide.serve 0 r ⟨#[97, 98, 99, 100, 101]⟩ := by
  intro r strict wide
  have counted : r.method ∈ countedMethods := by decide
  have numeral : IsNumeral "005".toList :=
    ⟨by decide, List.all_eq_true.mp (by decide), by decide⟩
  have declares : r.Declares (some 5) := .number rfl numeral
  obtain ⟨turned, -⟩ := body_limit_exact strict 0 counted declares
  obtain ⟨turned', served, -⟩ := body_limit_exact wide 0 counted declares
  refine ⟨counted, declares, turned.mpr (Or.inr (by decide)), served fun away => ?_⟩
  rcases turned'.mp away with ⟨length, same, large⟩ | large
  · obtain rfl := Option.some.inj same
    exact absurd large (by decide)
  · exact absurd large (by decide)

/-- What becomes of a request for each length that it may declare. A length made of digits that is no
number breaks it; a number above the limit turns it away whatever its body is; and with any other
length only its body counts. -/
theorem length_header_guarded (s : Service) (now : Instant)
    (found : r.header? lengthHeader = some header) :
    ((∃ crash, (s.handle now r).2 = .error crash ∧ crash.OfLength) ↔ IsBroken header) ∧
      (0 ≤ s.limits.of r.address.placedPath →
        ((∀ chunks, s.TurnsAway now { r with chunks }) ↔
          IsNumeral header ∧ s.limits.of r.address.placedPath < Text.valueOf 10 header)) ∧
      (¬ IsBroken header →
        ¬ (IsNumeral header ∧ s.limits.of r.address.placedPath < Text.valueOf 10 header) →
          (s.TurnsAway now r ↔
            r.method ∈ countedMethods ∧ s.limits.of r.address.placedPath < r.body.size) ∧
          (¬ s.TurnsAway now r → s.handle now r = s.serve now r r.body)) := by
  by_cases broken : IsBroken header
  · obtain ⟨crash, crashed, length⟩ := handle_of_isBroken s now found broken
    refine ⟨iff_of_true ⟨crash, congrArg Prod.snd crashed, length⟩ broken, fun _ => ?_,
      fun whole => absurd broken whole⟩
    refine iff_of_false (fun away => ?_) fun numeral => numeral.1.not_isBroken broken
    cases crashed.symm.trans (away r.chunks)
  · obtain ⟨turned, served⟩ := handle_of_not_isBroken s now r found broken
    refine ⟨iff_of_false ?_ broken, fun nonnegative => ⟨fun away => ?_, fun large chunks => ?_⟩,
      fun _ small => ⟨turned.trans (or_iff_right small), served⟩⟩
    · -- Nothing is left that breaks off over the length: it is turned away or served.
      rintro ⟨crash, crashed, length⟩
      by_cases away : s.TurnsAway now r
      · rw [Service.TurnsAway] at away
        simp [away] at crashed
      · exact not_ofLength_of_serve (served away ▸ crashed) length
    · -- A request without any body is turned away by the length alone.
      obtain ⟨turned', -⟩ := handle_of_not_isBroken s now { r with chunks := [] } found broken
      refine (turned'.mp (away [])).resolve_right fun exceeds => ?_
      exact absurd exceeds.2 (Int.not_lt.mpr nonnegative)
    · obtain ⟨turned', -⟩ := handle_of_not_isBroken s now { r with chunks } found broken
      exact turned'.mpr (Or.inl large)

/-- Two mebibytes with zeros in front are turned away before anything is read. -/
theorem length_header_guarded_above_limit :
    let r : Request := ⟨"POST", "/sessions", [("Content-Length", "0002097152")], []⟩
    r.header? lengthHeader = some "0002097152".toList ∧
      ∀ chunks, Service.TurnsAway {} 0 { r with chunks } := by
  intro r
  have found : r.header? lengthHeader = some "0002097152".toList := by decide
  have numeral : IsNumeral "0002097152".toList :=
    ⟨by decide, List.all_eq_true.mp (by decide), by decide⟩
  obtain ⟨-, early, -⟩ := length_header_guarded {} 0 found
  exact ⟨found, (early (by decide)).mpr ⟨numeral, by decide⟩⟩

/-- A superscript two as the length breaks a request that is answered without it. -/
theorem broken_by_superscript :
    let r : Request := ⟨"GET", "/health", [("content-length", "\xb2")], []⟩
    (Service.handle {} 0 r).2 = .error (.lengthNotDecimal "\xb2") ∧
      ∃ response, (Service.handle {} 0 { r with headers := [] }).2 = .ok response ∧
        response.status = 200 := by
  intro r
  exact ⟨by rfl, _, rfl, rfl⟩

end SandboxPreview.Http
