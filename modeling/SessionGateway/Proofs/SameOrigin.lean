import SessionGateway.Proofs.Origin.Page
import SessionGateway.Proofs.Origin.Target

/-!
# Pages of the own origin

Without an allow-list, a request is allowed if its page has the origin the
request was sent to.  The two origins come from different readers, that of a
request and that of URLs; `isRequestAllowed_iff_same` says that they agree on
every host name and every port, so that a page is let in exactly if browsers
take the two origins for the same.
-/

namespace SessionGateway.Origin

open Http

/-- A request names an origin as that of its page. -/
def ComesFrom (request : Request) (page : WebOrigin) : Prop :=
  ∃ text, request.headers.firstText? .origin = some text ∧ page.Writes text.toList

variable
  {request : Request}
  {own page : WebOrigin}

theorem accepts_iff_same
    {text : String} (written : page.Writes text.toList) :
    (ServerOrigin.ofOrigin own).accepts text = true ↔ own.Same page := by
  have bare : trimBrackets (Text.lower page.host.text) = Text.lower page.host.text := by
    rw [← page.host.text_lowered]
    exact trimBrackets_of_isHostCharacter fun character => HostName.isHostCharacter_of_mem
  have folded (name : HostName) : Text.lower (Text.lower name.text) = Text.lower name.text :=
    lower_lower fun character => HostName.isHostCharacter_of_mem
  have host : (Url.ofOrigin page).host = some (.domain (Text.lower page.host.text)) := rfl
  simp only [ServerOrigin.accepts, Url.parse?_of_writes written, host, Url.Host.text, bare,
    Url.effectivePort?_ofOrigin, Text.sameIgnoringCase, Bool.and_eq_true, beq_iff_eq,
    ServerOrigin.ofOrigin, String.toList_ofList, folded, Option.some.injEq]
  constructor
  · rintro ⟨⟨scheme, host⟩, port⟩
    exact ⟨(WebScheme.text_eq_iff.mp scheme).symm, host.symm, port.symm⟩
  · rintro ⟨scheme, host, port⟩
    exact ⟨⟨WebScheme.text_eq_iff.mpr scheme.symm, host.symm⟩, port.symm⟩

/--
Without an allow-list, a request is allowed if and only if the origin it was
sent to and that of its page are the same: equal schemes, equal host names up
to the case of their letters, and equal ports, an absent one being the default
one of its scheme.
-/
theorem isRequestAllowed_iff_same
    (request : Request) (own page : WebOrigin)
    (sent : SentTo request own) (comes : ComesFrom request page) :
    isRequestAllowed request [] = true ↔ own.Same page := by
  obtain ⟨text, named, written⟩ := comes
  obtain ⟨value, first, read⟩ := Option.bind_eq_some_iff.mp named
  have notEmpty : text.isEmpty = false := by
    obtain ⟨initial, rest, cons, -⟩ := written.eq_cons
    rw [Bool.eq_false_iff]
    intro empty
    rw [String.isEmpty_iff.mp empty] at cons
    cases cons
  rw [← accepts_iff_same written]
  simp only [isRequestAllowed, first, read, ServerOrigin.ofRequest?_of_sentTo sent]
  simp [isAllowed, notEmpty]

/-- The host `Gate-1.Example`. -/
def gateway : HostName where
  labels := ["Gate-1".toList, "Example".toList]
  nonempty := by decide
  valid := by decide

/-- A request behind two proxies, from a page that spells the default port. -/
def proxied : Request where
  target := { path := "/sockjs/info".toList }
  headers :=
    { fields :=
        [(.host, .literal "Gate-1.Example"), (.xForwardedProto, .literal "HTTPS , http"),
          (.origin, .literal "https://gate-1.example:00443")] }

/-- A request with an absolute target, from a page on another port. -/
def direct : Request where
  target :=
    { scheme := some "http"
      authority := some { text := "Gate-1.Example:0080".toList }
      path := "/sockjs/info".toList }
  headers := { fields := [(.origin, .literal "http://Gate-1.Example:8080")] }

theorem isRequestAllowed_iff_same_forms :
    (SentTo proxied ⟨.https, gateway, none⟩ ∧
        ComesFrom proxied ⟨.https, gateway.lowered, some 443⟩ ∧
          isRequestAllowed proxied [] = true) ∧
      SentTo direct ⟨.http, gateway, some 80⟩ ∧
        ComesFrom direct ⟨.http, gateway, some 8080⟩ ∧ ¬isRequestAllowed direct [] = true := by
  have sentProxied : SentTo proxied ⟨.https, gateway, none⟩ := by
    have host : proxied.headers.firstText? .host = some "Gate-1.Example" := rfl
    have proxies : proxied.headers.firstText? .xForwardedProto = some "HTTPS , http" := rfl
    have pieces :
        "HTTPS , http".toList = [] ++ "HTTPS".toList ++ " ".toList ++ ", http".toList := rfl
    apply SentTo.headers rfl host
    · exact ⟨[], rfl, .absent⟩
    · exact .named proxies pieces rfl rfl rfl rfl
  have comesProxied : ComesFrom proxied ⟨.https, gateway.lowered, some 443⟩ := by
    refine ⟨"https://gate-1.example:00443", rfl, "https".toList,
      "gate-1.example:00443".toList, rfl, rfl, ":00443".toList, rfl, ?_⟩
    exact .decimal ⟨by decide, rfl, rfl⟩
  have sentDirect : SentTo direct ⟨.http, gateway, some 80⟩ := by
    have written :
        WebOrigin.Writes ⟨.http, gateway, some 80⟩ "HTTP://Gate-1.Example:0080".toList := by
      refine ⟨"HTTP".toList, "Gate-1.Example:0080".toList, rfl, rfl, ":0080".toList, rfl, ?_⟩
      exact .decimal ⟨by decide, rfl, rfl⟩
    have read :
        Uri.parse? (String.ofList ("HTTP://Gate-1.Example:0080".toList ++ "/sockjs/info".toList)) =
          some direct.target := by
      decide +kernel
    exact .target rfl written rfl read
  have comesDirect : ComesFrom direct ⟨.http, gateway, some 8080⟩ := by
    refine ⟨"http://Gate-1.Example:8080", rfl, "http".toList,
      "Gate-1.Example:8080".toList, rfl, rfl, ":8080".toList, rfl, ?_⟩
    exact .decimal ⟨by decide, rfl, rfl⟩
  refine ⟨⟨sentProxied, comesProxied, ?_⟩, sentDirect, comesDirect, ?_⟩
  · rw [isRequestAllowed_iff_same proxied _ _ sentProxied comesProxied]
    exact ⟨rfl, by decide, rfl⟩
  · rw [isRequestAllowed_iff_same direct _ _ sentDirect comesDirect]
    intro same
    exact absurd same.port (by decide)

end SessionGateway.Origin
