import SessionGateway.Proofs.Origin.Policy
import SessionGateway.Proofs.Url.Serialized
import SessionGateway.Settings.Validation

/-!
# Entries of an allow-list

An entry passes validation if it can be read as a web URL with a host; it is
compared with the origin of a page letter by letter.  So an entry that passes
lets in the pages of its own origin if and only if it is written as a browser
writes that origin (`entry_allows_iff`).  With a slash at its end, it keeps out
the very page it names (`keeps_out_listed_page`).
-/

namespace SessionGateway

namespace Origin

/-- A list of one entry accepts the entry, and a page that says nothing. -/
theorem isAllowed_singleton_iff
    {entry : String} (literal : entry ≠ "*") (origin : String) (own? : Option ServerOrigin) :
    isAllowed (some origin) [entry] own? = true ↔ origin = "" ∨ origin = entry := by
  simp [isAllowed, Ne.symm literal]

end Origin

theorem Url.ne_nil_of_origin?
    {url : Url} {page : List Char} (written : url.origin? = some page) :
    page ≠ [] := by
  obtain ⟨host, -, rfl⟩ := Option.map_eq_some_iff.mp written
  simp

namespace Settings

variable
  {settings : GatewaySettings}
  {entry : String}

/-! ## Reports about entries -/

theorem not_mem_report {due : Bool} {problem other : Problem} (different : other ≠ problem) :
    other ∉ report due problem := by
  rw [report]
  split
  · simpa using different
  · exact List.not_mem_nil

/-- An entry is reported exactly if it is listed and is no origin entry. -/
theorem allowedOrigin_mem_problems_iff :
    .allowedOrigin entry ∈ problems settings ↔
      entry ∈ settings.service.allowedOrigins ∧ isOriginEntry entry = false := by
  have others (due : Bool) {problem : Problem} (different : .allowedOrigin entry ≠ problem) :
      .allowedOrigin entry ∉ report due problem :=
    not_mem_report different
  simp [problems, listenerProblems, serviceProblems, others]

theorem isOriginEntry_iff :
    isOriginEntry entry = true ↔
      entry = "*" ∨
        ∃ url, ∃ scheme : WebScheme,
          Url.parse? entry.toList = some url ∧ url.scheme = scheme.text ∧
            url.host.isSome = true := by
  rw [isOriginEntry, Bool.or_eq_true, beq_iff_eq]
  apply or_congr_right
  cases read : Url.parse? entry.toList with
  | none => simp
  | some url =>
      simp only [Bool.and_eq_true, Bool.or_eq_true, beq_iff_eq, Option.some_inj]
      constructor
      · rintro ⟨plain | secure, named⟩
        · exact ⟨url, .http, rfl, plain, named⟩
        · exact ⟨url, .https, rfl, secure, named⟩
      · rintro ⟨_, scheme, rfl, written, named⟩
        refine ⟨?_, named⟩
        cases scheme
        · exact Or.inl written
        · exact Or.inr written

/-! ## Entries that can match -/

/--
An entry that passes validation lets in the pages of its own origin if and only
if it is written as browsers write origins.

Let an entry other than `*` be listed in some settings and not be reported.  Then
it is the URL of a page, and the page has an origin.  With the entry as the
allow-list, the origin is allowed if and only if the entry is serialized.  Apart
from pages that say nothing, only the text of the entry itself is allowed.
-/
theorem entry_allows_iff
    (settings : GatewaySettings) (entry : String)
    (listed : entry ∈ settings.service.allowedOrigins) (literal : entry ≠ "*")
    (unreported : .allowedOrigin entry ∉ problems settings) :
    ∃ page,
      (Url.parse? entry.toList).bind Url.origin? = some page ∧
        ∀ own?,
          (Origin.isAllowed (some (String.ofList page)) [entry] own? = true ↔
              Url.IsSerialized entry.toList) ∧
            ∀ origin, Origin.isAllowed (some origin) [entry] own? = true ↔
              origin = "" ∨ origin = entry := by
  have valid : isOriginEntry entry = true := by
    by_contra invalid
    exact unreported
      (allowedOrigin_mem_problems_iff.mpr ⟨listed, Bool.eq_false_iff.mpr invalid⟩)
  obtain ⟨url, scheme, read, named, hosted⟩ := (isOriginEntry_iff.mp valid).resolve_left literal
  obtain ⟨host, known⟩ := Option.isSome_iff_exists.mp hosted
  obtain ⟨page, written⟩ : ∃ page, url.origin? = some page :=
    ⟨_, Option.map_eq_some_iff.mpr ⟨host, known, rfl⟩⟩
  refine ⟨page, ?_, fun own? => ⟨?_, ?_⟩⟩
  · rw [read, Option.bind_some, written]
  · have said : String.ofList page ≠ "" := by
      intro silent
      apply Url.ne_nil_of_origin? written
      rw [← String.toList_ofList (l := page), silent]
      rfl
    calc
      Origin.isAllowed (some (String.ofList page)) [entry] own? = true
        ↔ String.ofList page = entry := by
          rw [Origin.isAllowed_singleton_iff literal, or_iff_right said]
      _ ↔ url.origin? = some entry.toList := by
          rw [written, Option.some_inj, ← String.toList_inj, String.toList_ofList]
      _ ↔ Url.IsSerialized entry.toList :=
          Url.origin?_eq_some_iff_isSerialized read named
  · exact fun origin => Origin.isAllowed_singleton_iff literal origin own?

/-- Settings that list one origin. -/
def listing (entry : String) : GatewaySettings where
  service := { name := "", allowedOrigins := [entry] }

theorem entry_allows_iff_serialized :
    let entry := "https://a.example:8443"
    .allowedOrigin entry ∉ problems (listing entry) ∧
      Url.IsSerialized entry.toList ∧
        ∀ own?, Origin.isAllowed (some entry) [entry] own? = true := by
  intro entry
  have unreported : .allowedOrigin entry ∉ problems (listing entry) := by
    decide +kernel
  have serialized : Url.IsSerialized entry.toList := by
    refine ⟨.https, .domain "a.example".toList, some 8443, by decide +kernel, ?_, by decide +kernel⟩
    rintro port ⟨⟩
    decide
  refine ⟨unreported, serialized, fun own? => ?_⟩
  obtain ⟨page, written, allows⟩ :=
    entry_allows_iff (listing entry) entry List.mem_cons_self (by decide) unreported
  have same : (Url.parse? entry.toList).bind Url.origin? = some entry.toList := by
    decide +kernel
  rw [same, Option.some_inj] at written
  rw [← written, String.ofList_toList] at allows
  exact (allows own?).1.mpr serialized

/-- A listed page is kept out, because a slash ends the entry. -/
theorem keeps_out_listed_page :
    let entry := "https://a.example/"
    let page := "https://a.example"
    .allowedOrigin entry ∉ problems (listing entry) ∧
      (Url.parse? entry.toList).bind Url.origin? = some page.toList ∧
        ∀ own?, Origin.isAllowed (some page) [entry] own? = false := by
  intro entry page
  refine ⟨by decide +kernel, by decide +kernel, fun own? => ?_⟩
  simp [entry, page, Origin.isAllowed]

end Settings

end SessionGateway
