import SessionGateway.Proofs.Idempotence

/-!
# Header writers one after the other

A response may go through any number of header writers, in any order: grants,
checks of the origin, and both kinds of cache headers.  None of them takes away
what somebody else has written, except that a cache header replaces the one
before it.

`Extends` says what every writer keeps, and it composes.  `mentions` counts the
items of `Vary` that are `Origin`: a writer that makes the response depend on the
origin adds the one item that is missing, if it is.
-/

namespace SessionGateway

open Http

/-- A call of a header writer. -/
inductive Writing where
  | grant (request : Request) (methods : List Method)
  | check (policy : Cors.Policy) (request : Request) (methods : List Method)
  | keepForYear (now : Nat)
  | forbid

/-- A check finds a grant to write. -/
structure Cors.Due (policy : Policy) (request : Request) (response : Response) : Prop where
  present : request.headers.contains .origin = true
  allowed : Origin.isRequestAllowed request policy.allowedOrigins = true
  announced : policy.suppress = false
  fresh : response.headers.contains .accessControlAllowOrigin = false

namespace Writing

/-- The response that a call leaves. -/
def write : Writing → Response → Response
  | grant request methods, response => Cors.grant request methods response
  | check policy request methods, response =>
      (Cors.check policy request methods response).value.2
  | keepForYear now, response => Cache.keepForYear now response
  | forbid, response => Cache.forbid response

def writeAll (writings : List Writing) (response : Response) : Response :=
  writings.foldl (fun written writing => writing.write written) response

/-- The call lets the response be kept for a year, or writes a grant. -/
def Varies (response : Response) : Writing → Prop
  | grant .. => True
  | check policy request _ => Cors.Due policy request response
  | keepForYear _ => True
  | forbid => False

/-- One of the calls lets the response be kept or writes a grant, when its turn comes. -/
def SomeVaries (writings : List Writing) (response : Response) : Prop :=
  ∃ front writing rest, writings = front ++ writing :: rest ∧
    Varies (writeAll front response) writing

/-- The call is a check that refuses the origin. -/
def Refuses : Writing → Prop
  | grant .. => False
  | check policy request _ => Origin.isRequestAllowed request policy.allowedOrigins = false
  | keepForYear _ => False
  | forbid => False

/-- The `Cache-Control` that the call writes. -/
def control? : Writing → Option HeaderValue
  | grant .. => none
  | check .. => none
  | keepForYear _ => HeaderValue.ofString? "public, max-age=31536000"
  | forbid => HeaderValue.ofString? "no-store, no-cache, must-revalidate, max-age=0"

/-- How often the readable values of `Vary` name `Origin`, in whatever case. -/
def mentions (response : Response) : Nat :=
  (((response.headers.values .vary).filterMap HeaderValue.text?).flatMap Cache.items).countP
    fun item => Text.sameIgnoringCase item "origin".toList

/-- No value is lost but those of the headers that are replaced, and no value changes its place. -/
structure Extends (replaced : List HeaderName) (before after : Response) : Prop where
  values : ∀ name ∉ replaced, before.headers.values name <+: after.headers.values name
  body : after.body = before.body

variable
    {replaced : List HeaderName}
    {before between after response : Response}
    {name : HeaderName}
    {value : HeaderValue}
    {writing : Writing}
    {writings : List Writing}
    {request : Request}
    {methods : List Method}

theorem writeAll_concat (front : List Writing) (writing : Writing) (response : Response) :
    writeAll (front ++ [writing]) response = writing.write (writeAll front response) :=
  List.foldl_concat _ _ _ _

/-! ## What a check does -/

/-- A check refuses, or grants, or leaves the response alone. -/
theorem check_cases (policy : Cors.Policy) (request : Request) (methods : List Method)
    (response : Response) :
    let writing := check policy request methods
    writing.Refuses ∧ ¬Varies response writing ∧
        writing.write response = response.withStatus .forbidden ∨
      ¬writing.Refuses ∧ Varies response writing ∧
        writing.write response = Cors.grant request methods response ∨
      ¬writing.Refuses ∧ ¬Varies response writing ∧ writing.write response = response := by
  dsimp only [Refuses, Varies, write]
  cases allowed : Origin.isRequestAllowed request policy.allowedOrigins with
  | false =>
      left
      refine ⟨rfl, fun due => ?_, congrArg Prod.snd (Cors.check_refused allowed)⟩
      rw [due.allowed] at allowed
      cases allowed
  | true =>
      right
      by_cases due : Cors.Due policy request response
      · obtain ⟨origin, present⟩ := Service.contains_origin_iff.mp due.present
        left
        refine ⟨Bool.noConfusion, due, ?_⟩
        simp [Cors.check, present, allowed, due.announced, due.fresh]
      · right
        have settled : Cors.Settled policy request response := by
          constructor
          · intro refused
            rw [allowed] at refused
            cases refused
          · intro _ named announced
            by_contra fresh
            exact due ⟨named, allowed, announced, Bool.not_eq_true _ ▸ fresh⟩
        exact ⟨Bool.noConfusion, due, congrArg Prod.snd settled.check_eq⟩

/-! ## What is kept -/

namespace Extends

theorem refl (replaced : List HeaderName) (response : Response) :
    Extends replaced response response :=
  ⟨fun _ _ => List.prefix_rfl, rfl⟩

theorem trans (first : Extends replaced before between) (second : Extends replaced between after) :
    Extends replaced before after :=
  ⟨fun name other => (first.values name other).trans (second.values name other),
    second.body.trans first.body⟩

theorem append (kept : Extends replaced before after) (name : HeaderName)
    (value : HeaderValue) :
    Extends replaced before (after.append name value) := by
  refine kept.trans ⟨fun other _ => ?_, rfl⟩
  rw [Cors.values_append]
  exact List.prefix_append _ _

theorem insert (kept : Extends replaced before after) (member : name ∈ replaced)
    (value : HeaderValue) :
    Extends replaced before (after.insert name value) := by
  refine kept.trans ⟨fun other outside => ?_, rfl⟩
  have different : other ≠ name := by
    rintro rfl
    exact outside member
  have same : (after.insert name value).headers.values other = after.headers.values other :=
    Headers.values_insert_other _ _ different
  exact same ▸ List.prefix_rfl

theorem appendAll (kept : Extends replaced before after) (name : HeaderName)
    (values : List HeaderValue) :
    Extends replaced before
      (values.foldl (fun written value => written.append name value) after) := by
  induction values generalizing after with
  | nil => exact kept
  | cons value rest induction => exact induction (kept.append name value)

theorem varyOnOrigin (kept : Extends replaced before after) :
    Extends replaced before (Cache.varyOnOrigin after) := by
  unfold Cache.varyOnOrigin
  split
  · exact kept
  · exact kept.append _ _

theorem grantMethods (kept : Extends replaced before after) (methods : List Method) :
    Extends replaced before (Cors.grantMethods methods after) := by
  unfold Cors.grantMethods
  split
  · exact kept
  · apply append
    split
    · exact kept.append _ _
    · exact kept

theorem grant (kept : Extends replaced before after) (request : Request)
    (methods : List Method) :
    Extends replaced before (Cors.grant request methods after) := by
  unfold Cors.grant
  apply varyOnOrigin
  apply grantMethods
  apply appendAll
  apply append
  split
  · exact kept.append _ _
  · exact kept

theorem keepForYear (kept : Extends replaced before after)
    (control : .cacheControl ∈ replaced) (expires : .expires ∈ replaced) (now : Nat) :
    Extends replaced before (Cache.keepForYear now after) := by
  apply varyOnOrigin
  split
  · exact (kept.insert control _).insert expires _
  · exact kept.insert control _

end Extends

/-- One call keeps everything but the cache headers. -/
theorem extends_write (writing : Writing) (response : Response) :
    Extends [.cacheControl, .expires] response (writing.write response) := by
  have unchanged := Extends.refl [.cacheControl, .expires] response
  cases writing with
  | grant request methods => exact unchanged.grant request methods
  | check policy request methods =>
      rcases check_cases policy request methods response with
        ⟨-, -, refused⟩ | ⟨-, -, granted⟩ | ⟨-, -, same⟩
      · rw [refused]
        exact ⟨unchanged.values, rfl⟩
      · rw [granted]
        exact unchanged.grant request methods
      · rw [same]
        exact unchanged
  | keepForYear now => exact unchanged.keepForYear (by decide) (by decide) now
  | forbid => exact unchanged.insert (by decide) _

theorem extends_writeAll (writings : List Writing) (response : Response) :
    Extends [.cacheControl, .expires] response (writeAll writings response) := by
  induction writings generalizing response with
  | nil => exact .refl _ response
  | cons writing rest induction =>
      exact (extends_write writing response).trans (induction (writing.write response))

/-! ## The items of `Vary` -/

theorem mentions_congr
    (same : after.headers.values .vary = before.headers.values .vary) :
    mentions after = mentions before := by
  rw [mentions, same, mentions]

theorem mentions_pos_iff :
    0 < mentions response ↔
      (response.headers.values .vary).any Cache.namesOrigin = true := by
  rw [mentions, List.countP_pos_iff, List.any_eq_true]
  constructor
  · rintro ⟨item, member, same⟩
    obtain ⟨text, read, inside⟩ := List.mem_flatMap.mp member
    obtain ⟨value, present, readable⟩ := List.mem_filterMap.mp read
    refine ⟨value, present, ?_⟩
    rw [Cache.namesOrigin, readable]
    exact List.any_eq_true.mpr ⟨item, inside, same⟩
  · rintro ⟨value, present, named⟩
    rw [Cache.namesOrigin] at named
    split at named
    · cases named
    · next text readable =>
        obtain ⟨item, inside, same⟩ := List.any_eq_true.mp named
        have read := List.mem_filterMap.mpr ⟨value, present, readable⟩
        exact ⟨item, List.mem_flatMap.mpr ⟨text, read, inside⟩, same⟩

/-- What makes a response vary adds the item that is missing. -/
theorem mentions_varyOnOrigin (response : Response) :
    mentions (Cache.varyOnOrigin response) = max 1 (mentions response) := by
  unfold Cache.varyOnOrigin
  split
  · next named =>
      have positive := mentions_pos_iff.mpr named
      omega
  · next unnamed =>
      have none : mentions response = 0 := by
        have unmentioned := mt mentions_pos_iff.mp unnamed
        omega
      have word : (Cache.items "Origin").countP
          (fun item => Text.sameIgnoringCase item "origin".toList) = 1 := by
        decide
      have readable : (HeaderValue.literal "Origin").text? = some "Origin" := by
        decide
      rw [none]
      rw [mentions] at none ⊢
      rw [Cors.values_append, if_pos rfl, List.filterMap_append, List.flatMap_append,
        List.countP_append, none]
      simpa [readable] using word

theorem mentions_grant (request : Request) (methods : List Method) (response : Response) :
    mentions (Cors.grant request methods response) = max 1 (mentions response) := by
  refine (mentions_varyOnOrigin _).trans (congrArg (max 1) (mentions_congr ?_))
  rw [Cors.values_grantMethods (by decide), Cors.values_foldl_append, if_neg (by decide),
    Cors.values_append, if_neg (by decide), List.append_nil, List.append_nil]
  split
  · rw [Cors.values_append, if_neg (by decide), List.append_nil]
  · rfl

theorem mentions_keepForYear (now : Nat) (response : Response) :
    mentions (Cache.keepForYear now response) = max 1 (mentions response) := by
  refine (mentions_varyOnOrigin _).trans (congrArg (max 1) (mentions_congr ?_))
  split
  · exact (Headers.values_insert_other _ _ (by decide)).trans
      (Headers.values_insert_other _ _ (by decide))
  · exact Headers.values_insert_other _ _ (by decide)

theorem mentions_write (writing : Writing) (response : Response) :
    (Varies response writing →
        mentions (writing.write response) = max 1 (mentions response)) ∧
      (¬Varies response writing → mentions (writing.write response) = mentions response) := by
  cases writing with
  | grant request methods =>
      exact ⟨fun _ => mentions_grant request methods response, fun still => absurd trivial still⟩
  | check policy request methods =>
      rcases check_cases policy request methods response with
        ⟨-, still, refused⟩ | ⟨-, varies, granted⟩ | ⟨-, still, same⟩
      · rw [refused]
        exact ⟨fun varies => absurd varies still, fun _ => rfl⟩
      · rw [granted]
        exact ⟨fun _ => mentions_grant request methods response, fun still => absurd varies still⟩
      · rw [same]
        exact ⟨fun varies => absurd varies still, fun _ => rfl⟩
  | keepForYear now =>
      exact ⟨fun _ => mentions_keepForYear now response, fun still => absurd trivial still⟩
  | forbid =>
      refine ⟨False.elim, fun _ => mentions_congr ?_⟩
      exact Headers.values_insert_other _ _ (by decide)

theorem someVaries_cons_iff :
    SomeVaries (writing :: writings) response ↔
      Varies response writing ∨ SomeVaries writings (writing.write response) := by
  constructor
  · rintro ⟨front, turn, rest, split, varies⟩
    rcases front with _ | ⟨first, front⟩
    · cases split
      exact Or.inl varies
    · cases split
      exact Or.inr ⟨front, turn, rest, rfl, varies⟩
  · rintro (varies | ⟨front, turn, rest, rfl, varies⟩)
    · exact ⟨[], writing, writings, rfl, varies⟩
    · exact ⟨writing :: front, turn, rest, rfl, varies⟩

theorem mentions_writeAll (writings : List Writing) (response : Response) :
    (SomeVaries writings response →
        mentions (writeAll writings response) = max 1 (mentions response)) ∧
      (¬SomeVaries writings response →
        mentions (writeAll writings response) = mentions response) := by
  induction writings generalizing response with
  | nil =>
      constructor
      · rintro ⟨front, writing, rest, split, -⟩
        simp at split
      · exact fun _ => rfl
  | cons writing rest induction =>
      have step := mentions_write writing response
      have run := induction (writing.write response)
      rw [someVaries_cons_iff, not_or]
      -- Once a call has varied, `Origin` is named, and later ones find it there.
      by_cases varies : Varies response writing
      · have first : mentions (writing.write response) = max 1 (mentions response) :=
          step.1 varies
        refine ⟨fun _ => ?_, fun still => absurd varies still.1⟩
        by_cases later : SomeVaries rest (writing.write response)
        · exact (run.1 later).trans (by omega)
        · exact (run.2 later).trans first
      · rw [step.2 varies] at run
        exact ⟨fun some => run.1 (some.resolve_left varies), fun still => run.2 still.2⟩

/-! ## Cache control and status -/

theorem ofString?_literal (text : String) (legal : (Text.octets text).all isValueOctet = true) :
    HeaderValue.ofString? text = some (HeaderValue.literal text legal) :=
  dif_pos legal

theorem control_write (writing : Writing) (response : Response) :
    (writing.write response).headers.values .cacheControl =
      writing.control?.elim (response.headers.values .cacheControl) fun value => [value] := by
  cases writing with
  | grant request methods => exact Cors.values_grant_of_not_mem (by decide)
  | check policy request methods => exact Cors.values_check_of_not_mem (by decide)
  | keepForYear now =>
      rw [control?, ofString?_literal _ (by decide)]
      exact (Cache.keptForYear_keepForYear now response).control
  | forbid =>
      rw [control?, ofString?_literal _ (by decide)]
      exact Headers.values_insert_same _ _ _

/-- The last call that writes `Cache-Control` decides it. -/
theorem control_writeAll (writings : List Writing) (response : Response) :
    (writeAll writings response).headers.values .cacheControl =
      (writings.filterMap control?).getLast?.elim (response.headers.values .cacheControl)
        fun value => [value] := by
  induction writings using List.reverseRecOn with
  | nil => rfl
  | append_singleton front writing induction =>
      rw [writeAll_concat, control_write, List.filterMap_append]
      cases written : writing.control? with
      | none => simpa [written] using induction
      | some value => simp [written]

theorem status_write (writing : Writing) (response : Response) :
    (writing.Refuses → (writing.write response).status = .forbidden) ∧
      (¬writing.Refuses → (writing.write response).status = response.status) := by
  cases writing with
  | grant request methods => exact ⟨False.elim, fun _ => Cors.status_grant⟩
  | check policy request methods =>
      rcases check_cases policy request methods response with
        ⟨refuses, -, refused⟩ | ⟨permits, -, granted⟩ | ⟨permits, -, same⟩
      · rw [refused]
        exact ⟨fun _ => rfl, fun permits => absurd refuses permits⟩
      · rw [granted]
        exact ⟨fun refuses => absurd refuses permits, fun _ => Cors.status_grant⟩
      · rw [same]
        exact ⟨fun refuses => absurd refuses permits, fun _ => rfl⟩
  | keepForYear now =>
      refine ⟨False.elim, fun _ => ?_⟩
      rw [write]
      exact Cache.status_keepForYear
  | forbid => exact ⟨False.elim, fun _ => rfl⟩

theorem status_writeAll (writings : List Writing) (response : Response) :
    ((∃ writing ∈ writings, writing.Refuses) →
        (writeAll writings response).status = .forbidden) ∧
      ((∀ writing ∈ writings, ¬writing.Refuses) →
        (writeAll writings response).status = response.status) := by
  induction writings using List.reverseRecOn with
  | nil => exact ⟨by simp, fun _ => rfl⟩
  | append_singleton front writing induction =>
      have last := status_write writing (writeAll front response)
      rw [writeAll_concat]
      constructor
      · rintro ⟨refusal, member, refuses⟩
        by_cases again : writing.Refuses
        · exact last.1 again
        · refine (last.2 again).trans (induction.1 ⟨refusal, ?_, refuses⟩)
          rcases List.mem_append.mp member with inside | end_
          · exact inside
          · rw [List.mem_singleton.mp end_] at refuses
            exact absurd refuses again
      · intro permits
        have before := induction.2 fun earlier member =>
          permits earlier (List.mem_append_left _ member)
        exact (last.2 (permits writing (List.mem_append_right _ List.mem_cons_self))).trans before

/-! ## Any number of calls -/

/--
Header writers compose.

After any calls, of any writers, in any order, every value that a response had
at first is still there, in front of what was written, except for the two
headers that are replaced; and the body is the same.  `Vary` names `Origin` as
often as at first, but once if it did not and one of the calls had to make the
response depend on the origin.  `Cache-Control` has the value of the last
call that writes it, and no other.  The status is that of a refusal once an
origin was refused, and else what it was.
-/
theorem writings_compose (writings : List Writing) (response : Response) :
    let written := writeAll writings response
    Extends [.cacheControl, .expires] response written ∧
      ((SomeVaries writings response → mentions written = max 1 (mentions response)) ∧
        (¬SomeVaries writings response → mentions written = mentions response)) ∧
      written.headers.values .cacheControl =
        (writings.filterMap control?).getLast?.elim (response.headers.values .cacheControl)
          (fun value => [value]) ∧
      ((∃ writing ∈ writings, writing.Refuses) → written.status = .forbidden) ∧
        ((∀ writing ∈ writings, ¬writing.Refuses) → written.status = response.status) := by
  intro written
  constructor
  · exact extends_writeAll writings response
  constructor
  · exact mentions_writeAll writings response
  constructor
  · exact control_writeAll writings response
  · exact status_writeAll writings response

/-- A refusal between both kinds of cache headers; `Vary` names the origin already. -/
theorem writings_compose_refused :
    let request : Request :=
      { headers := ⟨[(.origin, HeaderValue.literal "https://other.example")]⟩ }
    let writings : List Writing :=
      [.forbid, .check { allowedOrigins := ["https://client.example"] } request [.get],
        .keepForYear 0]
    let response : Response :=
      { headers := ⟨[(.vary, HeaderValue.literal "Accept-Encoding, ORIGIN")]⟩ }
    let written := writeAll writings response
    SomeVaries writings response ∧ (∃ writing ∈ writings, writing.Refuses) ∧
      mentions written = 1 ∧ written.status = .forbidden ∧
        written.headers.values .cacheControl =
          [HeaderValue.literal "public, max-age=31536000"] := by
  intro request writings response written
  have varies : SomeVaries writings response :=
    ⟨writings.dropLast, .keepForYear 0, [], rfl, trivial⟩
  have refused : Origin.isRequestAllowed request ["https://client.example"] = false := by
    decide
  have refuses : ∃ writing ∈ writings, writing.Refuses :=
    ⟨_, List.mem_cons_of_mem _ List.mem_cons_self, refused⟩
  have composed := writings_compose writings response
  have once : max 1 (mentions response) = 1 := by
    decide
  exact
    ⟨varies, refuses, (composed.2.1.1 varies).trans once, composed.2.2.2.1 refuses,
      composed.2.2.1⟩

end Writing

end SessionGateway
