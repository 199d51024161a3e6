import SessionGateway.Proofs.Http.FirstItem
import SessionGateway.Proofs.Http.Grant
import SessionGateway.Proofs.Http.Insertion
import SessionGateway.Proofs.Http.PlainValue
import SessionGateway.Proofs.Text.Reading

/-!
# Method lists in headers

A list of methods is written to `Allow` and `Access-Control-Allow-Methods`.  No
character of a method is a comma, a blank or anything else that a header value cannot
hold or a reader would take off, so the list always is a header value
(`exists_value_join`), and its items are the methods again (`items_join`): two lists
never look alike (`join_injective`).
-/

namespace SessionGateway.Http

/-! ## Tokens -/

/-- A character that can stand anywhere in an item of a list: printed, and no comma. -/
def isItemCharacter (character : Char) : Bool :=
  0x20 < character.toNat && character.toNat < 0x7F && character != ','

theorem isItemCharacter_iff {character : Char} :
    isItemCharacter character = true ↔
      0x20 < character.toNat ∧ character.toNat < 0x7F ∧ character ≠ ',' := by
  simp [isItemCharacter, and_assoc]

theorem isItemCharacter_of_isAlphanum {character : Char}
    (alphanumeric : character.isAlphanum = true) : isItemCharacter character = true := by
  have bounds : 48 ≤ character.toNat ∧ character.toNat ≤ 122 := by
    rcases Bool.or_eq_true_iff.mp alphanumeric with letter | digit
    · rcases Text.isUpper_or_isLower letter with upper | lower
      · have := Text.toNat_of_isUpper upper
        omega
      · have := Text.toNat_of_isLower lower
        omega
    · have := Text.toNat_of_isDigit digit
      omega
  refine isItemCharacter_iff.mpr ⟨by omega, by omega, ?_⟩
  rintro rfl
  exact absurd bounds.1 (by decide)

theorem isItemCharacter_of_isTokenCharacter {character : Char}
    (token : isTokenCharacter character = true) : isItemCharacter character = true := by
  rw [isTokenCharacter, Bool.or_eq_true] at token
  rcases token with alphanumeric | mark
  · exact isItemCharacter_of_isAlphanum alphanumeric
  · exact List.all_eq_true.mp (by decide) character (List.contains_iff_mem.mp mark)

theorem isWhite_of_isTokenCharacter {character : Char}
    (token : isTokenCharacter character = true) : Text.isWhite character = false := by
  have code := isItemCharacter_iff.mp (isItemCharacter_of_isTokenCharacter token)
  simp only [Text.isWhite, Bool.or_eq_false_iff, Bool.and_eq_false_iff, decide_eq_false_iff_not,
    beq_eq_false_iff_ne]
  omega

theorem isPlainCharacter_of_isTokenCharacter {character : Char}
    (token : isTokenCharacter character = true) :
    HeaderValue.isPlainCharacter character = true := by
  have code := isItemCharacter_iff.mp (isItemCharacter_of_isTokenCharacter token)
  simp only [HeaderValue.isPlainCharacter, Bool.and_eq_true, decide_eq_true_eq]
  omega

namespace Method

variable {list : List Method}

theorem isTokenCharacter_of_mem (method : Method) :
    ∀ character ∈ method.token.toList, isTokenCharacter character = true := by
  have legal := method.legal
  rw [isToken, Bool.and_eq_true] at legal
  exact List.all_eq_true.mp legal.2

/-- A method can be an item of a list. -/
theorem isItem_token (method : Method) : Cache.IsItem method.token.toList where
  solid := by
    have legal := method.legal
    rw [isToken, Bool.and_eq_true] at legal
    simpa using legal.1
  trimmed := by
    constructor
    · intro character first
      exact isWhite_of_isTokenCharacter
        (method.isTokenCharacter_of_mem character (List.mem_of_mem_head? first))
    · intro character last
      exact isWhite_of_isTokenCharacter
        (method.isTokenCharacter_of_mem character (List.mem_of_getLast? last))
  commaFree := by
    intro member
    exact absurd (method.isTokenCharacter_of_mem ',' member) (by decide)

theorem token_injective : Function.Injective token := by
  rintro ⟨token, _⟩ ⟨_, _⟩ rfl
  rfl

/-! ## Lists of methods -/

/-- What stands between the commas of a list: the blank belongs to the method behind it. -/
def pieces : List Method → List (List Char)
  | [] => []
  | first :: rest => first.token.toList :: rest.map fun method => ' ' :: method.token.toList

theorem join_cons (first : Method) (rest : List Method) :
    join (first :: rest) =
      ",".intercalate (first.token :: rest.map fun method => " " ++ method.token) := by
  induction rest generalizing first with
  | nil => rfl
  | cons next rest induction =>
      have cut : join (first :: next :: rest) = first.token ++ ", " ++ join (next :: rest) :=
        String.intercalate_cons_cons
      have separator : ", " = "," ++ " " := rfl
      rw [cut, induction, List.map_cons, String.intercalate_cons_cons,
        String.intercalate_cons_append, separator]
      simp only [String.append_assoc]

theorem toList_join (list : List Method) :
    (join list).toList = [','].intercalate (pieces list) := by
  cases list with
  | nil => rfl
  | cons first rest => simp [join_cons, pieces, Function.comp_def]

theorem blank_or_token_of_mem_pieces {piece : List Char} (inside : piece ∈ pieces list) :
    ∀ character ∈ piece, character = ' ' ∨ isTokenCharacter character = true := by
  intro character member
  cases list with
  | nil => cases inside
  | cons first rest =>
      rcases List.mem_cons.mp inside with rfl | behind
      · exact Or.inr (first.isTokenCharacter_of_mem character member)
      · obtain ⟨method, -, rfl⟩ := List.mem_map.mp behind
        exact (List.mem_cons.mp member).imp_right (method.isTokenCharacter_of_mem character)

theorem plain_join (list : List Method) :
    (join list).toList.all HeaderValue.isPlainCharacter = true := by
  rw [toList_join, List.all_eq_true]
  intro character member
  rcases Text.mem_intercalate member with rfl | ⟨piece, inside, inner⟩
  · rfl
  · rcases blank_or_token_of_mem_pieces inside character inner with rfl | token
    · rfl
    · exact isPlainCharacter_of_isTokenCharacter token

/-- A list of methods is a header value, and can be read. -/
theorem exists_value_join (list : List Method) :
    ∃ value, HeaderValue.ofString? (join list) = some value ∧ value.text? = some (join list) := by
  refine ⟨HeaderValue.ofPlain _ (plain_join list), ?_, ?_⟩
  · rw [← HeaderValue.ofString?_of_plain (plain_join list), String.ofList_toList]
  · rw [HeaderValue.text?_ofPlain, String.ofList_toList]

/-- The items of a list are its methods, in order. -/
theorem items_join (nonempty : list ≠ []) :
    Cache.items (join list) = list.map fun method => method.token.toList := by
  have commaFree : ∀ piece ∈ pieces list, ',' ∉ piece := by
    intro piece inside comma
    rcases blank_or_token_of_mem_pieces inside ',' comma with blank | token
    · exact absurd blank (by decide)
    · exact absurd token (by decide)
  have unpadded : Text.isBlank [] = true := rfl
  have padded : Text.isBlank [' '] = true := rfl
  have trimmed {padding : List Char} (blank : Text.isBlank padding = true) (method : Method) :
      Text.trim (padding ++ method.token.toList) = method.token.toList := by
    have whole := method.isItem_token.trimmed.trim_padded blank unpadded
    rwa [List.append_nil] at whole
  obtain ⟨first, rest, rfl⟩ := List.exists_cons_of_ne_nil nonempty
  rw [Cache.items, toList_join, List.splitOn_intercalate ',' commaFree (List.cons_ne_nil _ _),
    pieces, List.map_cons, List.map_cons, List.map_map]
  exact congrArg₂ List.cons (trimmed unpadded first)
    (List.map_congr_left fun method _ => trimmed padded method)

/-- A list without methods has an item nevertheless, which is not a method. -/
theorem join_ne_join_nil (nonempty : list ≠ []) : join list ≠ join [] := by
  intro same
  have items := items_join nonempty
  obtain ⟨first, rest, rfl⟩ := List.exists_cons_of_ne_nil nonempty
  rw [same] at items
  have empty : [] = first.token.toList := (List.cons.inj items).1
  exact first.isItem_token.solid empty.symm

theorem join_injective : Function.Injective join := by
  intro left right same
  by_cases empty : left = []
  · subst empty
    by_contra different
    exact join_ne_join_nil (Ne.symm different) same.symm
  · have nonempty : right ≠ [] := by
      rintro rfl
      exact join_ne_join_nil empty same
    have items : (left.map fun method => method.token.toList) =
        right.map fun method => method.token.toList := by
      rw [← items_join empty, same, items_join nonempty]
    exact List.map_injective_iff.mpr
      (fun _ _ equal => token_injective (String.toList_injective equal)) items

end Method

/-! ## Headers -/

variable {list : List Method} {value : HeaderValue}

/-- A grant names the methods, whatever the request. -/
theorem values_grant_methods (request : Request) (response : Response)
    (joined : HeaderValue.ofString? (Method.join list) = some value) (nonempty : list ≠ []) :
    (Cors.grant request list response).headers.values .accessControlAllowMethods =
      response.headers.values .accessControlAllowMethods ++ [value] := by
  have written (response : Response) :
      (Cors.grantMethods list response).headers.values .accessControlAllowMethods =
        response.headers.values .accessControlAllowMethods ++ [value] := by
    simp only [Cors.grantMethods, List.isEmpty_eq_false_iff.mpr nonempty, joined]
    rw [if_neg Bool.false_ne_true, Cors.values_append, if_neg (by decide), List.append_nil,
      Cors.values_append, if_pos rfl]
  simp only [Cors.grant]
  rw [Cors.values_varyOnOrigin (by decide), written, Cors.values_foldl_append,
    if_neg (by decide), Cors.values_append, if_neg (by decide), List.append_nil,
    List.append_nil]
  split
  · rw [Cors.values_append, if_neg (by decide), List.append_nil]
  · rfl

theorem refuseMethod_of_join (response : Response)
    (joined : HeaderValue.ofString? (Method.join list) = some value) :
    (refuseMethod list response).value =
      (response.withStatus .methodNotAllowed).insert .allow value := by
  simp [refuseMethod, joined]

/--
A list of methods is named in headers so that it can be read back.

It is a header value, so neither a grant nor a refusal leaves it out.  The value is
readable, its items are the methods, in order and as often as they were listed, and no
other list is written like it.  A refused method leaves this one value of `Allow`,
whatever was allowed before, and all other headers as they were.
-/
theorem method_lists_read_back (list : List Method) (nonempty : list ≠ []) :
    ∃ value,
      HeaderValue.ofString? (Method.join list) = some value ∧
        value.text?.map Cache.items =
          some (list.map fun method => method.token.toList) ∧
        (∀ other, HeaderValue.ofString? (Method.join other) = some value → other = list) ∧
        (∀ request response,
          (Cors.grant request list response).headers.values .accessControlAllowMethods =
            response.headers.values .accessControlAllowMethods ++ [value]) ∧
        ∀ response : Response,
          let refused := (refuseMethod list response).value
          refused.headers.values .allow = [value] ∧
            refused.headers.erase .allow = response.headers.erase .allow ∧
            refused.status = .methodNotAllowed ∧ refused.body = response.body := by
  obtain ⟨value, joined, readable⟩ := Method.exists_value_join list
  refine ⟨value, joined, ?_, fun other same => ?_, fun request response => ?_,
    fun response => ?_⟩
  · rw [readable, Option.map_some, Method.items_join nonempty]
  · obtain ⟨otherValue, otherJoined, otherReadable⟩ := Method.exists_value_join other
    obtain rfl : otherValue = value := Option.some.inj (otherJoined.symm.trans same)
    exact Method.join_injective (Option.some.inj (otherReadable.symm.trans readable))
  · exact values_grant_methods request response joined nonempty
  · intro refused
    have written : refused = (response.withStatus .methodNotAllowed).insert .allow value :=
      refuseMethod_of_join response joined
    rw [written]
    exact
      ⟨Headers.values_insert_same _ _ _, Headers.erase_insert _ _ _, rfl, rfl⟩

/-- A method twice, around one that is not registered; two values of `Allow` before. -/
theorem method_lists_read_back_repeated :
    let list : List Method := [.get, { token := "M-SEARCH" }, .get]
    let value := HeaderValue.literal "GET, M-SEARCH, GET"
    let response : Response :=
      { headers :=
          ⟨[(.allow, HeaderValue.literal "PUT"), (.vary, HeaderValue.literal "Origin"),
            (.allow, HeaderValue.literal "")]⟩ }
    let refused := (refuseMethod list response).value
    list ≠ [] ∧ refused.headers.values .allow = [value] ∧
      refused.headers.erase .allow = ⟨[(.vary, HeaderValue.literal "Origin")]⟩ := by
  intro list value response refused
  have nonempty : list ≠ [] := by decide
  have written : HeaderValue.ofString? (Method.join list) = some value := by decide
  obtain ⟨read, joined, -, -, -, refuses⟩ := method_lists_read_back list nonempty
  obtain rfl : value = read := Option.some.inj (written.symm.trans joined)
  exact ⟨nonempty, (refuses response).1, (refuses response).2.1⟩

end SessionGateway.Http
