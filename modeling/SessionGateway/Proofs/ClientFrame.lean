import SessionGateway.Frame
import SessionGateway.Proofs.Json.Flaw

/-!
# Frames of a client

A frame of a client is blank, a list of strings, or a single string.
`Frame.Denotes` says by the grammar of JSON which messages a frame stands for
that is not blank; `decode?_iff_denotes` says that these are the messages that
are decoded, that every other frame is refused, and that no frame has two
readings.

Blank means Unicode white space here, while the blanks around the tokens of a
list are the four of JSON.  The two do not get into each other's way: no frame
that is blank stands for anything by the grammar.
-/

namespace SessionGateway.Frame

/-- The messages that a frame stands for by the grammar. -/
inductive Denotes (frame : String) : List String → Prop where
  | list {messages : List String}
      (list : Json.TextList frame.toList (messages.map String.toList)) :
      Denotes frame messages
  | single {message : String} (value : Json.TextValue frame.toList message.toList) :
      Denotes frame [message]

variable {frame : String} {messages : List String}

theorem map_ofList_toList (messages : List String) :
    (messages.map String.toList).map String.ofList = messages := by
  simp [Function.comp_def]

theorem map_toList_ofList (texts : List (List Char)) :
    (texts.map String.ofList).map String.toList = texts := by
  simp [Function.comp_def]

theorem Denotes.readable (denotes : Denotes frame messages) : Json.Readable frame.toList := by
  cases denotes with
  | list list => exact .list list
  | single value => exact .value value

/-- A frame that stands for something is not blank. -/
theorem Denotes.not_blank (denotes : Denotes frame messages) :
    Text.isBlank frame.toList = false := by
  obtain ⟨body, found⟩ := denotes.readable.skipBlanks_eq
  obtain ⟨left, -, split⟩ := Json.exists_blank frame.toList
  rw [split, Text.isBlank, List.all_append]
  rcases found with bracket | quote
  · rw [bracket]
    simp [show Text.isWhite '[' = false by decide]
  · rw [quote]
    simp [show Text.isWhite '"' = false by decide]

/-! ## Decoding -/

theorem decode?_of_blank (blank : Text.isBlank frame.toList = true) :
    decode? frame = some [] := by
  rw [decode?, if_pos blank]

/-- A list is tried first, a single string if there is none. -/
theorem decode?_of_not_blank (solid : Text.isBlank frame.toList = false) :
    decode? frame =
      ((Json.whole (Json.readTextList frame.toList)).map (List.map String.ofList)).or
        ((Json.whole (Json.readTextValue frame.toList)).map fun text =>
          [String.ofList text]) := by
  rw [decode?, if_neg (Bool.eq_false_iff.mp solid)]
  cases Json.whole (Json.readTextList frame.toList) with
  | none => rfl
  | some texts => rfl

theorem decode?_of_denotes (denotes : Denotes frame messages) :
    decode? frame = some messages := by
  rw [decode?_of_not_blank denotes.not_blank]
  cases denotes with
  | list list =>
      rw [Json.whole_readTextList_iff.mpr list, Option.map_some, map_ofList_toList]
      rfl
  | @single message value =>
      have noList : Json.whole (Json.readTextList frame.toList) = none := by
        rw [Option.eq_none_iff_forall_ne_some]
        intro texts list
        exact (Json.whole_readTextList_iff.mp list).not_textValue value
      rw [noList, Json.whole_readTextValue_iff.mpr value]
      simp

theorem denotes_of_decode?
    (solid : Text.isBlank frame.toList = false) (decoded : decode? frame = some messages) :
    Denotes frame messages := by
  rw [decode?_of_not_blank solid, Option.or_eq_some_iff] at decoded
  rcases decoded with asList | ⟨-, asValue⟩
  · obtain ⟨texts, list, rfl⟩ := Option.map_eq_some_iff.mp asList
    apply Denotes.list
    rw [map_toList_ofList]
    exact Json.whole_readTextList_iff.mp list
  · obtain ⟨text, value, rfl⟩ := Option.map_eq_some_iff.mp asValue
    apply Denotes.single
    rw [String.toList_ofList]
    exact Json.whole_readTextValue_iff.mp value

theorem Denotes.unique {others : List String}
    (denotes : Denotes frame messages) (other : Denotes frame others) : messages = others := by
  have decoded := decode?_of_denotes denotes
  rw [decode?_of_denotes other] at decoded
  exact (Option.some.inj decoded).symm

/--
Decoding accepts exactly the frames of the protocol.

A blank frame has no messages.  A frame that is not blank is decoded to the
messages it stands for by the grammar, and refused if it stands for none; in
particular if it has one of the flaws of a text.  No frame has two readings:
it stands for one list of messages at most, and is not both a list and a string.
-/
theorem decode?_iff_denotes (frame : String) :
    (Text.isBlank frame.toList = true →
        decode? frame = some [] ∧ ∀ messages, ¬Denotes frame messages) ∧
      (Text.isBlank frame.toList = false →
        (∀ messages, decode? frame = some messages ↔ Denotes frame messages) ∧
          (decode? frame = none ↔ ∀ messages, ¬Denotes frame messages) ∧
            (Json.Flawed frame.toList → decode? frame = none)) ∧
        (∀ messages others, Denotes frame messages → Denotes frame others →
          messages = others) ∧
          ∀ texts text, Json.TextList frame.toList texts →
            ¬Json.TextValue frame.toList text := by
  refine ⟨?_, ?_, fun _ _ => Denotes.unique, fun _ _ => Json.TextList.not_textValue⟩
  · intro blank
    refine ⟨decode?_of_blank blank, ?_⟩
    intro messages denotes
    rw [denotes.not_blank] at blank
    cases blank
  · intro solid
    have exact : ∀ messages, decode? frame = some messages ↔ Denotes frame messages :=
      fun messages => ⟨denotes_of_decode? solid, decode?_of_denotes⟩
    have refused : decode? frame = none ↔ ∀ messages, ¬Denotes frame messages := by
      simp only [Option.eq_none_iff_forall_ne_some, ne_eq, exact]
    refine ⟨exact, refused, ?_⟩
    intro flawed
    rw [refused]
    exact fun messages denotes => flawed.not_readable denotes.readable

example : decode? " [\"a\" ,\t\"\\u00E9\\ud83d\\ude00\"]\n" = some ["a", "é😀"] := by
  decide +kernel

example : decode? "\u3000\n" = some [] := by
  decide

end SessionGateway.Frame
