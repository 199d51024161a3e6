import SessionGateway.Proofs.Http.FirstItem
import SessionGateway.Proofs.UniformRefusal

/-!
# The bootstrap page, asked for again

The entity tag of the page depends on the page alone, and the page on the URL of
the client library alone.  So a client that has loaded the page once, from
whichever service and under whichever name, need not load it again from another
one.

`Iframe.Names` says when a request names a tag, `Iframe.Misses` lists what keeps
it from doing so, and `Iframe.IsPage` says what a page looks like.
`Service.Deployment.page_revalidates` goes from the page and the tag in one
answer to the answer of another service.
-/

namespace SessionGateway

open Http

namespace Iframe

/-! ## Tags -/

/-- The form of an entity tag: `0` and thirty-two hexadecimal digits, quoted. -/
def IsTag (tag : String) : Prop :=
  ∃ digits : List Char, digits.length = 32 ∧
    (∀ digit ∈ digits, digit ∈ "0123456789abcdef".toList) ∧
      tag.toList = '"' :: '0' :: digits ++ ['"']

theorem hexDigit_mem (value : Nat) :
    Text.hexDigit (value % 16) ∈ "0123456789abcdef".toList := by
  have below : value % 16 < 16 := Nat.mod_lt value (by decide)
  have all : ∀ digit < 16, Text.hexDigit digit ∈ "0123456789abcdef".toList := by decide
  exact all _ below

theorem isTag_etag (content : List UInt8) : IsTag (String.ofList (etag content)) := by
  refine
    ⟨(Digest.Md5.digest content).flatMap (fun byte => Text.hexDigits 2 byte.toNat),
      ?_, ?_, by rw [String.toList_ofList]; rfl⟩
  · have two (byte : UInt8) : (Text.hexDigits 2 byte.toNat).length = 2 := rfl
    simp [List.length_flatMap, two, Digest.Md5.digest_length]
  · intro digit member
    obtain ⟨byte, -, inside⟩ := List.mem_flatMap.mp member
    have either : digit = Text.hexDigit (byte.toNat / 16 % 16) ∨
        digit = Text.hexDigit (byte.toNat % 16) := by
      simpa [Text.hexDigits] using inside
    rcases either with rfl | rfl
    · exact hexDigit_mem _
    · exact hexDigit_mem _

/-- A tag comes through a list unharmed. -/
theorem IsTag.isItem {tag : String} (isTag : IsTag tag) : Cache.IsItem tag.toList := by
  obtain ⟨digits, -, hexadecimal, spelled⟩ := isTag
  have quote : Text.isWhite '"' = false := by decide
  rw [spelled]
  refine ⟨by simp, ⟨?_, ?_⟩, ?_⟩
  · rintro character ⟨⟩
    exact quote
  · intro character last
    rw [List.getLast?_concat] at last
    cases last
    exact quote
  · intro member
    have inside : ',' ∈ digits := by
      simpa using member
    exact absurd (hexadecimal ',' inside) (by decide)

/-! ## Requests that name a tag -/

/-- The first value of `If-None-Match` is readable, and the tag is its first item. -/
def Names (headers : Headers) (tag : String) : Prop :=
  ∃ value text, headers.first? .ifNoneMatch = some value ∧ value.text? = some text ∧
    Cache.FirstItem tag.toList text.toList

/-- What keeps a request from naming a tag. -/
inductive Misses (headers : Headers) (tag : String) : Prop where
  | absent (absent : headers.first? .ifNoneMatch = none)
  | unreadable {value : HeaderValue} {byte : UInt8}
      (present : headers.first? .ifNoneMatch = some value)
      (member : byte ∈ value.octets) (hidden : isVisibleOctet byte = false)
  | blank {value : HeaderValue} {text : String}
      (present : headers.first? .ifNoneMatch = some value) (read : value.text? = some text)
      (blank : ∀ character ∈ text.toList, Text.isWhite character = true ∨ character = ',')
  /-- Something else comes first: another tag, or the same in another form. -/
  | other {value : HeaderValue} {text : String} {item : List Char}
      (present : headers.first? .ifNoneMatch = some value) (read : value.text? = some text)
      (isItem : Cache.IsItem item) (first : Cache.FirstItem item text.toList)
      (different : item ≠ tag.toList)

variable
    {url tag : String}
    {headers : Headers}
    {value : HeaderValue}
    {request : Request}
    {response : Response}

theorem knownTag?_eq (headers : Headers) :
    knownTag? headers =
      (headers.firstText? .ifNoneMatch).bind fun text => Cache.firstItem? text.toList :=
  rfl

theorem knownTag?_eq_some_iff (isItem : Cache.IsItem tag.toList) :
    knownTag? headers = some tag.toList ↔ Names headers tag := by
  rw [knownTag?_eq, Headers.firstText?]
  constructor
  · intro known
    obtain ⟨text, sent, found⟩ := Option.bind_eq_some_iff.mp known
    obtain ⟨value, present, read⟩ := Option.bind_eq_some_iff.mp sent
    exact ⟨value, text, present, read, (Cache.firstItem?_eq_some_iff.mp found).2⟩
  · rintro ⟨value, text, present, read, first⟩
    rw [present, Option.bind_some, read, Option.bind_some]
    exact Cache.firstItem?_of_firstItem isItem first

theorem Names.first {text : String} (names : Names headers tag)
    (present : headers.first? .ifNoneMatch = some value) (read : value.text? = some text) :
    Cache.FirstItem tag.toList text.toList := by
  obtain ⟨other, spelled, presentToo, readToo, first⟩ := names
  rw [present] at presentToo
  cases presentToo
  rw [read] at readToo
  cases readToo
  exact first

theorem Misses.not_names (isItem : Cache.IsItem tag.toList) (misses : Misses headers tag) :
    ¬Names headers tag := by
  intro names
  cases misses with
  | absent absent =>
      obtain ⟨value, text, present, -⟩ := names
      rw [absent] at present
      cases present
  | unreadable present member hidden =>
      obtain ⟨value, text, presentToo, read, -⟩ := names
      rw [present] at presentToo
      cases presentToo
      rw [HeaderValue.text?_eq_none_iff.mpr ⟨_, member, hidden⟩] at read
      cases read
  | blank present read blank =>
      exact (names.first present read).not_blank isItem blank
  | other present read isItemToo first different =>
      have found := Cache.firstItem?_of_firstItem isItem (names.first present read)
      rw [Cache.firstItem?_of_firstItem isItemToo first] at found
      exact different (Option.some.inj found)

theorem names_or_misses (headers : Headers) (tag : String) :
    Names headers tag ∨ Misses headers tag := by
  cases present : headers.first? .ifNoneMatch with
  | none => exact Or.inr (.absent present)
  | some value =>
      cases read : value.text? with
      | none =>
          obtain ⟨byte, member, hidden⟩ := HeaderValue.text?_eq_none_iff.mp read
          exact Or.inr (.unreadable present member hidden)
      | some text =>
          rcases Cache.firstItem_or_blank text.toList with
            ⟨item, -, isItem, first⟩ | ⟨-, blank⟩
          · by_cases same : item = tag.toList
            · subst same
              exact Or.inl ⟨value, text, present, read, first⟩
            · exact Or.inr (.other present read isItem first same)
          · exact Or.inr (.blank present read blank)

theorem misses_iff (isItem : Cache.IsItem tag.toList) :
    Misses headers tag ↔ ¬Names headers tag := by
  constructor
  · exact Misses.not_names isItem
  · exact (names_or_misses headers tag).resolve_left

/-! ## The page -/

/-- The text of a page in front of the URL of its client library. -/
def opening : String :=
  "<!DOCTYPE html>\n" ++
  "<html>\n" ++
  "<head>\n" ++
  "  <meta http-equiv=\"X-UA-Compatible\" content=\"IE=edge\" />\n" ++
  "  <meta http-equiv=\"Content-Type\" content=\"text/html; charset=UTF-8\" />\n" ++
  "  <script>\n" ++
  "    document.domain = document.domain;\n" ++
  "    _sockjs_onload = function()\x7bSockJS.bootstrap_iframe();\x7d;\n" ++
  "  </script>\n" ++
  "  <script src=\""

/-- The text of a page behind the URL. -/
def ending : String :=
  "\"></script>\n" ++
  "</head>\n" ++
  "<body>\n" ++
  "  <h2>Don't panic!</h2>\n" ++
  "  <p>This is a SockJS hidden iframe. It's used for cross domain magic.</p>\n" ++
  "</body>\n" ++
  "</html>"

/-- A page that loads the client library from a URL, which stands in it as it is. -/
def IsPage (url content : String) : Prop :=
  content = opening ++ url ++ ending

theorem isPage_page (url : String) : IsPage url (page url) := by
  unfold IsPage page opening ending
  simp only [String.append_assoc]

/-! ## Answers -/

/-- The page of a URL as it is to look, with its tag and its length, not to be kept. -/
structure CarriesPage (url : String) (tag : HeaderValue) (response : Response) : Prop where
  status : response.status = .ok
  body : response.body = page url
  isPage : IsPage url response.body
  etag : response.headers.values .etag = [tag]
  contentLength :
    response.headers.values .contentLength =
      [HeaderValue.ofNat (Text.octets response.body).length]
  contentType :
    response.headers.values .contentType = [HeaderValue.literal "text/html;charset=UTF-8"]
  cacheControl :
    response.headers.values .cacheControl =
      [HeaderValue.literal "no-store, no-cache, must-revalidate, max-age=0"]

/-- Neither a page nor anything about one. -/
structure CarriesNothing (response : Response) : Prop where
  body : response.body = ""
  etag : response.headers.values .etag = []
  contentLength : response.headers.values .contentLength = []
  contentType : response.headers.values .contentType = []

theorem CarriesNothing.insert {name : HeaderName} {value : HeaderValue}
    (nothing : CarriesNothing response)
    (other : HeaderName.etag ≠ name ∧ HeaderName.contentLength ≠ name ∧
      HeaderName.contentType ≠ name) :
    CarriesNothing (response.insert name value) where
  body := nothing.body
  etag := (Headers.values_insert_other _ _ other.1).trans nothing.etag
  contentLength := (Headers.values_insert_other _ _ other.2.1).trans nothing.contentLength
  contentType := (Headers.values_insert_other _ _ other.2.2).trans nothing.contentType

theorem CarriesNothing.withStatus (nothing : CarriesNothing response) (status : Status) :
    CarriesNothing (response.withStatus status) :=
  { nothing with }

theorem carriesPage_respond
    (get : request.method = Method.get) (fresh : response.status = .ok)
    (unknown : knownTag? request.headers ≠ some (Iframe.etag (Text.octets (page url)))) :
    CarriesPage url (etagValue (Text.octets (page url)))
      (respond url request response).value := by
  have different : HeaderName.contentType ≠ .etag ∧ HeaderName.contentLength ≠ .etag ∧
      HeaderName.cacheControl ≠ .etag ∧ HeaderName.contentType ≠ .cacheControl ∧
        HeaderName.contentLength ≠ .cacheControl ∧
          HeaderName.contentType ≠ .contentLength := by
    decide
  obtain ⟨typeTag, lengthTag, cacheTag, typeCache, lengthCache, typeLength⟩ := different
  rw [respond, if_pos get]
  dsimp only
  rw [if_neg unknown]
  refine ⟨fresh, rfl, isPage_page url, Headers.values_insert_same _ _ _, ?_, ?_, ?_⟩
  · apply (Headers.values_insert_other _ _ lengthTag).trans
    apply (Headers.values_insert_other _ _ lengthCache).trans
    exact Headers.values_insert_same _ _ _
  · apply (Headers.values_insert_other _ _ typeTag).trans
    apply (Headers.values_insert_other _ _ typeCache).trans
    apply (Headers.values_insert_other _ _ typeLength).trans
    exact Headers.values_insert_same _ _ _
  · apply (Headers.values_insert_other _ _ cacheTag).trans
    exact Headers.values_insert_same _ _ _

theorem respond_of_known
    (get : request.method = Method.get)
    (known : knownTag? request.headers = some (Iframe.etag (Text.octets (page url)))) :
    (respond url request response).value = response.withStatus .notModified := by
  rw [respond, if_pos get]
  dsimp only
  rw [if_pos known]
  rfl

theorem respond_of_other_method (other : request.method ≠ Method.get) :
    (respond url request response).value =
      (response.withStatus .methodNotAllowed).insert .allow (HeaderValue.literal "GET") := by
  rw [respond, if_neg other, refuseMethod, Info.ofString?_join_get]
  rfl

/-- What is answered to each request for the page of a URL, whose tag is given. -/
structure Answers (url tag : String) (value : HeaderValue) (request : Request)
    (response : Response) : Prop where
  known : request.method = Method.get → Names request.headers tag →
    response.status = .notModified ∧ CarriesNothing response
  missed : request.method = Method.get → Misses request.headers tag →
    CarriesPage url value response
  refused : request.method ≠ Method.get →
    response.status = .methodNotAllowed ∧
      response.headers.values .allow = [HeaderValue.literal "GET"] ∧ CarriesNothing response

theorem answers_respond
    (fresh : response.status = .ok) (nothing : CarriesNothing response) :
    Answers url (String.ofList (Iframe.etag (Text.octets (page url))))
      (etagValue (Text.octets (page url))) request (respond url request response).value := by
  have isItem := (isTag_etag (Text.octets (page url))).isItem
  have knownIff := @knownTag?_eq_some_iff _ request.headers isItem
  rw [String.toList_ofList] at knownIff
  refine ⟨?_, ?_, ?_⟩
  · intro get names
    rw [respond_of_known get (knownIff.mpr names)]
    exact ⟨rfl, nothing.withStatus _⟩
  · intro get misses
    apply carriesPage_respond get fresh
    intro known
    exact misses.not_names isItem (knownIff.mp known)
  · intro other
    rw [respond_of_other_method other]
    exact
      ⟨rfl, Headers.values_insert_same _ _ _, (nothing.withStatus _).insert (by decide)⟩

end Iframe

/-! ## Services -/

namespace Service.Deployment

/-- A service has the page of a URL at a path. -/
structure Offers (deployment : Deployment) (url path : String) : Prop where
  library : deployment.settings.clientLibraryUrl = url
  unrestricted : deployment.settings.restrictsOrigins = false
  page : ∃ file, Path.classify path = .iframe file

variable
    {deployment : Deployment}
    {url path : String}
    {request : Request}

theorem Offers.answers (offers : deployment.Offers url path) (request : Request) :
    Iframe.Answers url (String.ofList (Iframe.etag (Text.octets (Iframe.page url))))
        (Iframe.etagValue (Text.octets (Iframe.page url))) request
        (deployment.handle (some path) request {}).response ∧
      (deployment.handle (some path) request {}).failure = none := by
  obtain ⟨rfl, unrestricted, file, classified⟩ := offers
  have nothing : Iframe.CarriesNothing {} := ⟨rfl, rfl, rfl, rfl⟩
  simp only [handle, Service.handle, dispatch, classified, serveIframe, unrestricted,
    Bool.false_eq_true, if_false]
  refine ⟨?_, rfl⟩
  -- All that the page may find in its response is who may frame it.
  by_cases unlisted : deployment.settings.allowedOrigins.isEmpty = true
  · rw [if_pos unlisted]
    exact Iframe.answers_respond rfl (nothing.insert (by decide))
  · rw [if_neg unlisted]
    exact Iframe.answers_respond rfl nothing

/--
Conditional requests for the bootstrap page work across names, settings and
services.

Let two services have the page of one URL, each at some path, and let the first
have answered a request with a page.  Then that page is the one of the URL, which
is the same for all URLs but for the URL itself, and the answer carries a tag of
the fixed form, as a header value that could be made and can be read.  The second service leaves the page out for a `GET` that names
this tag, and answers any other `GET` with the same page and the same tag; it
refuses every other method.  A client that sends the tag back names it, and a
request fails to do so only for the reasons listed.
-/
theorem page_revalidates
    (first second : Deployment) (url firstPath secondPath : String)
    (offersFirst : first.Offers url firstPath) (offersSecond : second.Offers url secondPath)
    (asked : Request)
    (answered : (first.handle (some firstPath) asked {}).response.status = .ok) :
    ∃ (tag : String) (value : HeaderValue),
      Iframe.IsTag tag ∧ HeaderValue.ofString? tag = some value ∧ value.text? = some tag ∧
        Iframe.CarriesPage url value (first.handle (some firstPath) asked {}).response ∧
          ∀ again : Request,
            Iframe.Answers url tag value again
                (second.handle (some secondPath) again {}).response ∧
              (second.handle (some secondPath) again {}).failure = none ∧
              (again.headers.first? .ifNoneMatch = some value →
                Iframe.Names again.headers tag) ∧
              (Iframe.Misses again.headers tag ↔ ¬Iframe.Names again.headers tag) := by
  have isTag := Iframe.isTag_etag (Text.octets (Iframe.page url))
  have read := HeaderValue.text?_ofPlain (Iframe.etag_plain (Text.octets (Iframe.page url)))
  have missed := fun headers => @Iframe.misses_iff _ headers isTag.isItem
  refine ⟨_, _, isTag, Iframe.ofString?_etag _, read, ?_, ?_⟩
  · obtain ⟨known, missing, refused⟩ := (offersFirst.answers asked).1
    by_cases get : asked.method = Method.get
    · apply missing get
      rw [missed]
      intro names
      rw [(known get names).1] at answered
      exact absurd answered (by decide)
    · rw [(refused get).1] at answered
      exact absurd answered (by decide)
  · intro again
    obtain ⟨answers, failure⟩ := offersSecond.answers again
    refine ⟨answers, failure, ?_, missed again.headers⟩
    exact fun present => ⟨_, _, present, read, .alone _⟩

/-- A page loaded from one service, and asked for under another name at another one. -/
theorem page_revalidates_renamed :
    let first : Deployment :=
      { collaborators := WebSocket.collaborators
        surroundings := { now := 0, entropy := 0 }
        threshold := .error
        settings := { name := "first" } }
    let second : Deployment :=
      { collaborators := WebSocket.collaborators
        surroundings := { now := 1, entropy := 1 }
        threshold := .trace
        settings := { name := "second", allowedOrigins := ["*"], websocketEnabled := false } }
    let page := (first.handle (some "/iframe.html") {} {}).response
    Iframe.IsPage "https://cdn.jsdelivr.net/sockjs/0.3.4/sockjs.min.js" page.body ∧
      ∃ value, page.headers.values .etag = [value] ∧
        (second.handle (some "/iframe-2.html") { headers := ⟨[(.ifNoneMatch, value)]⟩ }
            {}).response.status = .notModified := by
  intro first second page
  have offersFirst : first.Offers first.settings.clientLibraryUrl "/iframe.html" :=
    ⟨rfl, rfl, "iframe.html", by decide⟩
  have offersSecond : second.Offers first.settings.clientLibraryUrl "/iframe-2.html" :=
    ⟨rfl, rfl, "iframe-2.html", by decide⟩
  obtain ⟨tag, value, -, -, -, carries, again⟩ :=
    page_revalidates first second _ _ _ offersFirst offersSecond {} rfl
  obtain ⟨answers, -, names, -⟩ := again { headers := ⟨[(.ifNoneMatch, value)]⟩ }
  exact ⟨carries.isPage, value, carries.etag, (answers.known rfl (names rfl)).1⟩

end Service.Deployment

end SessionGateway
