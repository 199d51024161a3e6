import SessionGateway.Proofs.ClientFrame

/-!
# Frames of a server

The replies in a frame are read back by the decoder for the frames of clients,
although encoder and decoder have nothing but the grammar in common: what is
written behind the `a` is a list of the replies, and such a list is decoded to
them.

`encode?_decodes` adds what follows for a client that tells frames apart by
their texts.
-/

namespace SessionGateway.Frame

variable
    {texts : List String}
    {frame : String}

/-! ## The list in a frame -/

/-- The list that stands behind the `a` of a frame. -/
def listText (texts : List String) : String :=
  String.ofList (Json.writeTextList (texts.map String.toList))

/-- The replies that a text of a server carries: those in the list behind an `a`. -/
def carried (text : String) : List String :=
  match text.toList with
  | 'a' :: list => (decode? (String.ofList list)).getD []
  | _ => []

theorem decode?_listText (texts : List String) : decode? (listText texts) = some texts := by
  apply decode?_of_denotes
  apply Denotes.list
  rw [listText, String.toList_ofList]
  exact Json.textList_writeTextList (texts.map String.toList)

theorem encode?_eq_some_iff :
    encode? texts = some frame ↔ texts ≠ [] ∧ frame = "a" ++ listText texts := by
  have text :
      String.ofList ('a' :: Json.writeTextList (texts.map String.toList)) =
        "a" ++ listText texts := by
    rw [← String.toList_inj]
    simp [listText]
  cases texts with
  | nil => simp [encode?]
  | cons first rest =>
      rw [encode?, if_neg (by simp), text, Option.some.injEq, eq_comm]
      simp

theorem toList_of_encode? (encoded : encode? texts = some frame) :
    frame.toList = 'a' :: (listText texts).toList := by
  rw [(encode?_eq_some_iff.mp encoded).2, String.toList_append]
  rfl

/-- Nothing is lost in a frame. -/
theorem carried_of_encode? (encoded : encode? texts = some frame) : carried frame = texts := by
  simp only [carried, toList_of_encode? encoded, String.ofList_toList, decode?_listText,
    Option.getD_some]

/-- The replies in a frame. -/
def replies : Frame → List String
  | messages texts => texts
  | opened | heartbeat | goAway | close => []

theorem carried_of_text? {other : Frame} (text : other.text? = some frame) :
    carried frame = other.replies := by
  cases other with
  | messages texts => exact carried_of_encode? text
  | opened | heartbeat | goAway =>
      cases text
      decide
  | close => cases text

/-- Only a frame without replies has no text. -/
theorem replies_of_text? {other : Frame} (text : other.text? = none) : other.replies = [] := by
  cases other with
  | messages texts => simpa [text?, encode?, replies] using text
  | opened | heartbeat | goAway | close => rfl

/-- The texts of some frames carry the replies in these frames, in their order. -/
theorem carried_texts (frames : List Frame) :
    (frames.filterMap text?).flatMap carried = frames.flatMap replies := by
  induction frames with
  | nil => rfl
  | cons first rest induction =>
      rw [List.flatMap_cons, ← induction]
      cases text : first.text? with
      | some frame =>
          rw [List.filterMap_cons_some text, List.flatMap_cons, carried_of_text? text]
      | none =>
          rw [List.filterMap_cons_none text, replies_of_text? text, List.nil_append]

/-! ## Telling frames apart -/

theorem printable_of_encode? (encoded : encode? texts = some frame) :
    Json.Printable frame.toList := by
  rw [toList_of_encode? encoded, listText, String.toList_ofList]
  exact .cons (by decide) (Json.printable_writeTextList (texts.map String.toList))

/-- A frame of replies has the text of no other frame. -/
theorem eq_messages_of_text? {other : Frame}
    (encoded : encode? texts = some frame) (text : other.text? = some frame) :
    other = .messages texts := by
  have letter : frame.toList.head? = some 'a' := by
    rw [toList_of_encode? encoded]
    rfl
  cases other with
  | messages others =>
      rw [← carried_of_encode? encoded, ← carried_of_encode? text]
  | opened | heartbeat | goAway =>
      cases text
      exact absurd letter (by decide)
  | close => cases text

/--
A frame of a server carries its replies, and shows that it does.

There is a frame for all lists of replies but the empty one.  It is an `a` and a
text that the decoder takes back to the replies.  It has no control characters,
no other replies have the same frame, and it is the text of no frame of another
kind; whatever begins with `c[` is none, either.
-/
theorem encode?_decodes (texts : List String) :
    (encode? texts = none ↔ texts = []) ∧
      (texts ≠ [] →
        ∃ list, encode? texts = some ("a" ++ list) ∧ decode? list = some texts) ∧
        ∀ frame, encode? texts = some frame →
          (∀ others, encode? others = some frame → others = texts) ∧
            (∀ character ∈ frame.toList, 0x20 ≤ character.toNat) ∧
              (∀ other : Frame, other.text? = some frame → other = .messages texts) ∧
                frame ≠ "o" ∧ frame ≠ "h" ∧ ¬"c[".toList <+: frame.toList := by
  refine ⟨?_, ?_, ?_⟩
  · rw [encode?]
    simp
  · intro some
    exact ⟨listText texts, encode?_eq_some_iff.mpr ⟨some, rfl⟩, decode?_listText texts⟩
  · intro frame encoded
    refine ⟨?_, printable_of_encode? encoded, fun other => eq_messages_of_text? encoded,
      ?_, ?_, ?_⟩
    · intro others same
      rw [← carried_of_encode? encoded, carried_of_encode? same]
    · rintro rfl
      have same : .opened = Frame.messages texts := eq_messages_of_text? encoded rfl
      cases same
    · rintro rfl
      have same : .heartbeat = Frame.messages texts := eq_messages_of_text? encoded rfl
      cases same
    · rw [toList_of_encode? encoded]
      intro front
      cases (List.cons_prefix_cons.mp front).1

example :
    encode? ["say \"hi\"", "\u0001\\ 😀"] =
      some "a[\"say \\\"hi\\\"\",\"\\u0001\\\\ 😀\"]" := by
  decide +kernel

end SessionGateway.Frame
