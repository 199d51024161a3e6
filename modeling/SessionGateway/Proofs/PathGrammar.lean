import SessionGateway.Path
import SessionGateway.Proofs.Text.Percent
import SessionGateway.Proofs.Text.White

/-!
# The grammar of endpoint paths

`Path.Static` lists the paths with a fixed form, `Path.Denotes` is the whole
grammar of decoded paths: an endpoint with a fixed form, a session URL, or one
of two refusals.  Neither mentions the order in which the classifier tries
them.

The main statement is `classify_iff_denotes`: the classifier answers what the
grammar says of the path decoded once, and refuses a path that does not decode
to a text.  Its last part starts from the three segments instead: however they
are padded, spread among blank pieces and percent-encoded, the classifier
finds them again.
-/

namespace SessionGateway.Path

/-! ## Segments -/

/-- What a path is cut into has no blank pieces and no padding. -/
theorem segment_trimmed
    {text segment : List Char} (member : segment ∈ segments text) :
    segment ≠ [] ∧ Text.Trimmed segment := by
  simp only [segments, List.mem_filter, List.mem_map, Bool.not_eq_true',
    List.isEmpty_eq_false_iff] at member
  obtain ⟨⟨piece, -, rfl⟩, nonempty⟩ := member
  exact ⟨nonempty, Text.trimmed_trim piece⟩

/--
The pieces between the slashes of a path that shows certain segments: each
segment is a piece of its own, blank padding aside, and any other piece is
blank.
-/
inductive Spread : List (List Char) → List (List Char) → Prop where
  | nil : Spread [] []
  | blank {shown pieces : List (List Char)} {piece : List Char}
      (blank : Text.isBlank piece = true)
      (tail : Spread shown pieces) :
      Spread shown (piece :: pieces)
  | padded {shown pieces : List (List Char)} {left segment right : List Char}
      (blankLeft : Text.isBlank left = true)
      (blankRight : Text.isBlank right = true)
      (tail : Spread shown pieces) :
      Spread (segment :: shown) ((left ++ segment ++ right) :: pieces)

/-- A text that can be a segment of a path. -/
structure IsSegment (text : List Char) : Prop where
  nonempty : text ≠ []
  trimmed : Text.trim text = text
  slashFree : '/' ∉ text

theorem IsSegment.trim_padded
    {segment left right : List Char}
    (isSegment : IsSegment segment)
    (blankLeft : Text.isBlank left = true)
    (blankRight : Text.isBlank right = true) :
    Text.trim (left ++ segment ++ right) = segment := by
  have trimmed : Text.Trimmed segment := by
    rw [← isSegment.trimmed]
    exact Text.trimmed_trim segment
  exact trimmed.trim_padded blankLeft blankRight

theorem slash_not_mem_of_isBlank
    {text : List Char} (blank : Text.isBlank text = true) :
    '/' ∉ text := by
  intro member
  have white := Text.isBlank_iff.mp blank '/' member
  revert white
  decide

theorem Spread.slashFree
    {shown pieces : List (List Char)}
    (spread : Spread shown pieces)
    (isSegment : ∀ segment ∈ shown, IsSegment segment) :
    ∀ piece ∈ pieces, '/' ∉ piece := by
  induction spread with
  | nil => simp
  | blank blank tail induction =>
      rw [List.forall_mem_cons]
      exact ⟨slash_not_mem_of_isBlank blank, induction isSegment⟩
  | padded blankLeft blankRight tail induction =>
      rw [List.forall_mem_cons] at isSegment
      rw [List.forall_mem_cons]
      refine ⟨?_, induction isSegment.2⟩
      simp only [List.mem_append, not_or]
      exact
        ⟨⟨slash_not_mem_of_isBlank blankLeft, isSegment.1.slashFree⟩,
          slash_not_mem_of_isBlank blankRight⟩

/-- Trimming the pieces and dropping the blank ones leaves the segments shown. -/
theorem Spread.trimmed_pieces
    {shown pieces : List (List Char)}
    (spread : Spread shown pieces)
    (isSegment : ∀ segment ∈ shown, IsSegment segment) :
    ((pieces.map Text.trim).filter fun piece => !piece.isEmpty) = shown := by
  induction spread with
  | nil => rfl
  | blank blank tail induction =>
      rw [List.map_cons, Text.trim_eq_nil_of_isBlank blank]
      exact induction isSegment
  | padded blankLeft blankRight tail induction =>
      rw [List.forall_mem_cons] at isSegment
      have nonempty := isSegment.1.nonempty
      rw [List.map_cons, isSegment.1.trim_padded blankLeft blankRight,
        List.filter_cons_of_pos (by simpa using nonempty),
        induction isSegment.2]

/-- The segments of a path that shows them, joined by slashes. -/
theorem Spread.segments_intercalate
    {shown pieces : List (List Char)}
    (spread : Spread shown pieces)
    (nonempty : shown ≠ [])
    (isSegment : ∀ segment ∈ shown, IsSegment segment) :
    segments (['/'].intercalate pieces) = shown := by
  have piecesNonempty : pieces ≠ [] := by
    rintro rfl
    cases spread
    exact nonempty rfl
  rw [segments,
    List.splitOn_intercalate '/' (spread.slashFree isSegment) piecesNonempty]
  exact spread.trimmed_pieces isSegment

/-! ## Paths with a fixed form -/

/-- A character of ASCII letters, digits, `-`, `.` and `_`. -/
def IsNameCharacter (character : Char) : Prop :=
  character.isAlphanum = true ∨ character = '-' ∨ character = '.' ∨ character = '_'

/-- The endpoints with a fixed form, and the decoded paths that name them. -/
inductive Static : List Char → Path → Prop where
  | empty : Static [] .root
  | slash : Static ['/'] .root
  | info : Static "/info".toList .info
  | rawWebSocket : Static "/websocket".toList .rawWebSocket
  | iframe {middle file : List Char}
      (named : ∀ character ∈ middle, IsNameCharacter character)
      (whole : file = "iframe".toList ++ middle ++ ".html".toList) :
      Static ('/' :: file) (.iframe (String.ofList file))

theorem isIframeCharacter_iff {character : Char} :
    isIframeCharacter character = true ↔ IsNameCharacter character := by
  simp [isIframeCharacter, IsNameCharacter, or_assoc]

theorem isIframe_iff {text : List Char} :
    isIframe text = true ↔
      ∃ middle,
        text = "/iframe".toList ++ middle ++ ".html".toList ∧
          ∀ character ∈ middle, IsNameCharacter character := by
  simp only [isIframe, Bool.and_eq_true, List.isPrefixOf_iff_prefix,
    List.isSuffixOf_iff_suffix, List.all_eq_true, isIframeCharacter_iff]
  constructor
  · rintro ⟨⟨rest, rfl⟩, ending, named⟩
    rw [List.drop_left] at ending named
    obtain ⟨middle, rfl⟩ := ending
    refine ⟨middle, by rw [List.append_assoc], ?_⟩
    simpa using named
  · rintro ⟨middle, rfl, named⟩
    rw [List.append_assoc, List.drop_left]
    exact
      ⟨List.prefix_append _ _, List.suffix_append _ _, by simpa using named⟩

theorem static_of_isIframe
    {text : List Char} (isIframe : isIframe text = true) :
    Static text (.iframe (String.ofList text.tail)) := by
  obtain ⟨middle, rfl, named⟩ := isIframe_iff.mp isIframe
  exact .iframe named rfl

/-- The classifier recognises every path with a fixed form. -/
theorem Static.ofDecoded
    {text : List Char} {path : Path} (static : Static text path) :
    ofDecoded text = path := by
  cases static with
  | empty => rfl
  | slash => rfl
  | info => decide
  | rawWebSocket => decide
  | iframe named whole =>
      subst whole
      have recognised :
          isIframe ('/' :: ("iframe".toList ++ _ ++ ".html".toList)) = true :=
        isIframe_iff.mpr ⟨_, rfl, named⟩
      rw [Path.ofDecoded, if_neg (by simp), if_neg (by simp), if_pos recognised]
      rfl

theorem not_slash_of_isNameCharacter
    {character : Char} (named : IsNameCharacter character) :
    character ≠ '/' := by
  rintro rfl
  simp [IsNameCharacter] at named

/-- A path with at most a leading slash has at most one segment. -/
theorem segments_length_le_one
    {rest : List Char} (slashFree : '/' ∉ rest) :
    (segments ('/' :: rest)).length ≤ 1 := by
  have pieces : ('/' :: rest).splitOn '/' = [[], rest] := by
    rw [List.splitOn_cons_eq_if_modifyHead, if_pos (by simp),
      List.splitOn_eq_singleton slashFree]
  rw [segments, pieces]
  have blank : Text.trim [] = [] := rfl
  rw [List.map_cons, blank, List.filter_cons_of_neg (by simp)]
  exact List.length_filter_le _ [Text.trim rest]

/-- No path with a fixed form looks like a session URL. -/
theorem Static.segments_length
    {text : List Char} {path : Path} (static : Static text path) :
    (segments text).length ≤ 1 := by
  cases static with
  | empty => decide
  | slash => exact segments_length_le_one (by simp)
  | info => exact segments_length_le_one (by decide)
  | rawWebSocket => exact segments_length_le_one (by decide)
  | iframe named whole =>
      subst whole
      apply segments_length_le_one
      simp only [List.mem_append, not_or]
      refine ⟨⟨by decide, ?_⟩, by decide⟩
      intro member
      exact not_slash_of_isNameCharacter (named '/' member) rfl

/-! ## The grammar -/

/--
The grammar of decoded paths.  A path that is not one of a fixed form is a
session URL if it has exactly three segments; a dot in the first two of them
is refused, and so is any other number of segments.
-/
inductive Denotes (text : List Char) : Path → Prop where
  | static {path : Path}
      (static : Static text path) :
      Denotes text path
  | session {serverId sessionId transport : List Char}
      (three : segments text = [serverId, sessionId, transport])
      (serverDotFree : '.' ∉ serverId)
      (sessionDotFree : '.' ∉ sessionId) :
      Denotes text
        (.session (String.ofList serverId) (String.ofList sessionId)
          (String.ofList transport))
  | dot {serverId sessionId transport : List Char}
      (three : segments text = [serverId, sessionId, transport])
      (dotted : '.' ∈ serverId ∨ '.' ∈ sessionId) :
      Denotes text (.invalid .dot)
  | segmentCount
      (notStatic : ∀ path, ¬Static text path)
      (notThree : (segments text).length ≠ 3) :
      Denotes text (.invalid .segmentCount)

theorem ofDecoded_of_not_static
    {text : List Char} (notStatic : ∀ path, ¬Static text path) :
    ofDecoded text = ofSegments (segments text) := by
  have notRoot : ¬(text = [] ∨ text = ['/']) := by
    rintro (rfl | rfl)
    · exact notStatic _ .empty
    · exact notStatic _ .slash
  have notInfo : text ≠ "/info".toList := by
    rintro rfl
    exact notStatic _ .info
  have notIframe : ¬isIframe text = true := by
    intro isIframe
    exact notStatic _ (static_of_isIframe isIframe)
  have notRaw : text ≠ "/websocket".toList := by
    rintro rfl
    exact notStatic _ .rawWebSocket
  rw [ofDecoded, if_neg notRoot, if_neg notInfo, if_neg notIframe, if_neg notRaw]

theorem not_static_of_three
    {text serverId sessionId transport : List Char}
    (three : segments text = [serverId, sessionId, transport]) (path : Path) :
    ¬Static text path := by
  intro static
  have short := static.segments_length
  rw [three] at short
  simp at short

theorem ofSegments_of_length_ne
    {pieces : List (List Char)} (notThree : pieces.length ≠ 3) :
    ofSegments pieces = .invalid .segmentCount := by
  unfold ofSegments
  split
  · exact absurd rfl notThree
  · rfl

/-- The classifier answers what the grammar says. -/
theorem Denotes.ofDecoded
    {text : List Char} {path : Path} (denotes : Denotes text path) :
    ofDecoded text = path := by
  cases denotes with
  | static static => exact static.ofDecoded
  | session three serverDotFree sessionDotFree =>
      rw [ofDecoded_of_not_static (not_static_of_three three), three]
      simp [ofSegments, serverDotFree, sessionDotFree]
  | dot three dotted =>
      rw [ofDecoded_of_not_static (not_static_of_three three), three]
      simp [ofSegments, dotted]
  | segmentCount notStatic notThree =>
      rw [ofDecoded_of_not_static notStatic, ofSegments_of_length_ne notThree]

/-- The grammar covers every text. -/
theorem exists_denotes (text : List Char) : ∃ path, Denotes text path := by
  by_cases static : ∃ path, Static text path
  · obtain ⟨path, static⟩ := static
    exact ⟨path, .static static⟩
  · have notStatic : ∀ path, ¬Static text path := not_exists.mp static
    by_cases three : (segments text).length = 3
    · obtain ⟨serverId, sessionId, transport, three⟩ := List.length_eq_three.mp three
      by_cases dotted : '.' ∈ serverId ∨ '.' ∈ sessionId
      · exact ⟨_, .dot three dotted⟩
      · rw [not_or] at dotted
        exact ⟨_, .session three dotted.1 dotted.2⟩
    · exact ⟨_, .segmentCount notStatic three⟩

theorem ofDecoded_eq_iff {text : List Char} {path : Path} :
    ofDecoded text = path ↔ Denotes text path := by
  constructor
  · rintro rfl
    obtain ⟨path, denotes⟩ := exists_denotes text
    rw [denotes.ofDecoded]
    exact denotes
  · exact Denotes.ofDecoded

/-! ## Classification -/

theorem classify_of_decodes
    {path text : String}
    (decodes : Text.Decodes (Text.octets path) (Text.octets text)) :
    classify path = ofDecoded text.toList := by
  rw [classify, Text.percentDecode_eq_iff.mpr decodes, Text.ofOctets?_octets]

theorem ofDecoded_ne_encoding (text : List Char) :
    ofDecoded text ≠ .invalid .encoding := by
  intro refused
  cases ofDecoded_eq_iff.mp refused with
  | static static => cases static

/-- Exactly the paths whose decoded octets are not UTF-8 are refused for their encoding. -/
theorem classify_eq_encoding_iff
    {path : String} {decoded : List UInt8}
    (decodes : Text.Decodes (Text.octets path) decoded) :
    classify path = .invalid .encoding ↔ ¬∃ text, Text.octets text = decoded := by
  constructor
  · rintro refused ⟨text, rfl⟩
    rw [classify_of_decodes decodes] at refused
    exact ofDecoded_ne_encoding _ refused
  · intro unreadable
    have nothing : Text.ofOctets? decoded = none := by
      rw [Option.eq_none_iff_forall_not_mem]
      intro text read
      exact unreadable ⟨text, Text.ofOctets?_eq_some_iff.mp read⟩
    rw [classify, Text.percentDecode_eq_iff.mpr decodes, nothing]

theorem denotes_of_classify
    {path : String} {result : Path}
    (classified : classify path = result) (readable : result ≠ .invalid .encoding) :
    ∃ text, Denotes text result := by
  rw [classify] at classified
  split at classified
  · exact absurd classified.symm readable
  · next text _ => exact ⟨text.toList, ofDecoded_eq_iff.mp classified⟩

/-- The check of session segments never refuses what the classifier found. -/
theorem validateSegments_of_classify
    {path serverId sessionId transport : String}
    (classified : classify path = .session serverId sessionId transport) :
    validateSegments serverId sessionId transport = (true, []) := by
  obtain ⟨text, denotes⟩ := denotes_of_classify classified (by simp)
  cases denotes with
  | static static => cases static
  | @session server session transport three serverDotFree sessionDotFree =>
      have notBlank :
          ∀ segment ∈ [server, session, transport], Text.isBlank segment = false := by
        intro segment member
        rw [← three] at member
        obtain ⟨nonempty, trimmed⟩ := segment_trimmed member
        exact trimmed.isBlank_eq_false nonempty
      simp only [List.forall_mem_cons, List.not_mem_nil, false_implies, implies_true,
        and_true] at notBlank
      have present :
          ¬([String.ofList server, String.ofList session, String.ofList transport].any
            fun segment => Text.isBlank segment.toList) = true := by
        simp [notBlank]
      rw [validateSegments, if_neg present, if_neg]
      simp [serverDotFree, sessionDotFree]

/--
The classifier accepts exactly the grammar, under every spelling.

A path whose decoded octets are not UTF-8 is refused for its encoding; any
other path denotes what the grammar says of the decoded text.  Conversely the
three segments of a session are found again in every percent-encoding of every
padded and spread-out writing of them, slashes and padding included.
-/
theorem classify_iff_denotes :
    (∀ (path : String) (decoded : List UInt8),
      Text.Decodes (Text.octets path) decoded →
        (classify path = .invalid .encoding ↔
            ¬∃ text, Text.octets text = decoded) ∧
          ∀ text, Text.octets text = decoded →
            ∀ result, classify path = result ↔ Denotes text.toList result) ∧
      ∀ (serverId sessionId transport : List Char) (pieces : List (List Char))
        (path : String),
        (∀ segment ∈ [serverId, sessionId, transport], IsSegment segment) →
          '.' ∉ serverId → '.' ∉ sessionId →
            Spread [serverId, sessionId, transport] pieces →
              Text.Spells (Text.octets path)
                (Text.octets (String.ofList (['/'].intercalate pieces))) →
                classify path =
                  .session (String.ofList serverId) (String.ofList sessionId)
                    (String.ofList transport) := by
  constructor
  · intro path decoded decodes
    refine ⟨classify_eq_encoding_iff decodes, ?_⟩
    rintro text rfl result
    rw [classify_of_decodes decodes, ofDecoded_eq_iff]
  · intro serverId sessionId transport pieces path isSegment serverDotFree sessionDotFree
      spread spells
    have three := spread.segments_intercalate (by simp) isSegment
    rw [classify_of_decodes spells.decodes, String.toList_ofList]
    exact (Denotes.session three serverDotFree sessionDotFree).ofDecoded

/--
An escaped letter of a fixed form, and a session whose leading slash, first
segment and last segment are escaped, in digits of either case.  The last
segment is a `%`, which is not decoded again.
-/
theorem classify_iff_denotes_escaped :
    (Text.Decodes (Text.octets "/%69nfo") (Text.octets "/info") ∧
        classify "/%69nfo" = .info) ∧
      Spread ["é".toList, "b".toList, "%".toList]
          [[], "é".toList, " b".toList, "%".toList] ∧
        Text.Spells (Text.octets "%2F%c3%A9/ b/%25")
          (Text.octets (String.ofList
            (['/'].intercalate [[], "é".toList, " b".toList, "%".toList]))) ∧
          classify "%2F%c3%A9/ b/%25" =
            .session (String.ofList "é".toList) (String.ofList "b".toList)
              (String.ofList "%".toList) := by
  have decodes : Text.Decodes (Text.octets "/%69nfo") (Text.octets "/info") :=
    Text.percentDecode_eq_iff.mp (by decide)
  have spread :
      Spread ["é".toList, "b".toList, "%".toList]
        [[], "é".toList, " b".toList, "%".toList] :=
    .blank rfl
      (@Spread.padded _ _ [] _ [] rfl rfl
        (@Spread.padded _ _ [' '] _ [] rfl rfl
          (@Spread.padded _ _ [] _ [] rfl rfl .nil)))
  have spells :
      Text.Spells (Text.octets "%2F%c3%A9/ b/%25")
        (Text.octets (String.ofList
          (['/'].intercalate [[], "é".toList, " b".toList, "%".toList]))) :=
    .escaped ⟨2, 15, rfl, rfl, rfl⟩
      (.escaped ⟨12, 3, rfl, rfl, rfl⟩
        (.escaped ⟨10, 9, rfl, rfl, rfl⟩
          (.plain (by decide)
            (.plain (by decide)
              (.plain (by decide)
                (.plain (by decide)
                  (.escaped ⟨2, 5, rfl, rfl, rfl⟩ .nil)))))))
  have isSegment :
      ∀ segment ∈ ["é".toList, "b".toList, "%".toList], IsSegment segment := by
    simp only [List.forall_mem_cons, List.not_mem_nil, false_implies, implies_true, and_true]
    exact
      ⟨⟨by decide, by decide, by decide⟩, ⟨by decide, by decide, by decide⟩,
        ⟨by decide, by decide, by decide⟩⟩
  refine ⟨⟨decodes, ?_⟩, spread, spells, ?_⟩
  · exact
      ((classify_iff_denotes.1 _ _ decodes).2 _ rfl _).mpr (.static .info)
  · exact
      classify_iff_denotes.2 _ _ _ _ _ isSegment (by decide) (by decide) spread spells

end SessionGateway.Path
