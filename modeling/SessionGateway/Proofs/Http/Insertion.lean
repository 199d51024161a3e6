import Mathlib.Data.List.Basic
import SessionGateway.Http.Message

/-!
# Putting header values in their place

`Headers.insert` makes a value the only one of its name, in the place of the
first one that was there.  So a value that is the only one already stays where it
is (`Headers.insert_of_values`), and several values of different names can be put
into their places as often as one likes (`Response.insertAll_insertAll`).
-/

namespace SessionGateway.Http

variable {headers : Headers} {response : Response} {name : HeaderName} {value : HeaderValue}

theorem Headers.insertField_of_alone
    {fields : List (HeaderName × HeaderValue)}
    (alone : (fields.filter fun field => field.1 = name).map Prod.snd = [value]) :
    insertField name value fields = fields := by
  induction fields with
  | nil => cases alone
  | cons field rest induction =>
      by_cases same : field.1 = name
      · rw [List.filter_cons_of_pos (by simpa using same), List.map_cons, List.cons_eq_cons,
          List.map_eq_nil_iff, List.filter_eq_nil_iff] at alone
        have others : (rest.filter fun other => other.1 ≠ name) = rest := by
          rw [List.filter_eq_self]
          intro other member
          simpa using alone.2 other member
        rw [insertField, if_pos same, others, ← same, ← alone.1]
      · rw [List.filter_cons_of_neg (by simpa using same)] at alone
        rw [insertField, if_neg same, induction alone]

/-- A value that is the only one of its name already is put where it is. -/
theorem Headers.insert_of_values (alone : headers.values name = [value]) :
    headers.insert name value = headers :=
  congrArg Headers.mk (insertField_of_alone alone)

/-- A value that is put in its place leaves all other fields where they are. -/
theorem Headers.erase_insert (headers : Headers) (name : HeaderName) (value : HeaderValue) :
    (headers.insert name value).erase name = headers.erase name := by
  refine congrArg Headers.mk ?_
  show (insertField name value headers.fields).filter _ = headers.fields.filter _
  induction headers.fields with
  | nil => simp [insertField]
  | cons field rest induction =>
      by_cases same : field.1 = name
      · simp [insertField, same]
      · simp only [insertField, if_neg same, List.filter_cons, induction]

namespace Response

theorem insert_of_values (alone : response.headers.values name = [value]) :
    response.insert name value = response := by
  rw [Response.insert, Headers.insert_of_values alone]

def insertAll (fields : List (HeaderName × HeaderValue)) (response : Response) : Response :=
  fields.foldl (fun written field => written.insert field.1 field.2) response

variable {fields : List (HeaderName × HeaderValue)}

theorem values_insertAll_of_not_mem (other : name ∉ fields.map Prod.fst) :
    (response.insertAll fields).headers.values name = response.headers.values name := by
  induction fields generalizing response with
  | nil => rfl
  | cons field rest induction =>
      rw [List.map_cons, List.mem_cons, not_or] at other
      exact (induction other.2).trans (Headers.values_insert_other _ _ other.1)

theorem values_insertAll_of_mem
    (different : (fields.map Prod.fst).Nodup) {field : HeaderName × HeaderValue}
    (member : field ∈ fields) :
    (response.insertAll fields).headers.values field.1 = [field.2] := by
  induction fields generalizing response with
  | nil => cases member
  | cons first rest induction =>
      rw [List.map_cons, List.nodup_cons] at different
      rcases List.mem_cons.mp member with rfl | inside
      · exact (values_insertAll_of_not_mem different.1).trans (Headers.values_insert_same _ _ _)
      · exact induction different.2 inside

theorem insertAll_of_values
    (alone : ∀ field ∈ fields, response.headers.values field.1 = [field.2]) :
    response.insertAll fields = response := by
  induction fields with
  | nil => rfl
  | cons field rest induction =>
      rw [List.forall_mem_cons] at alone
      rw [insertAll, List.foldl_cons, insert_of_values alone.1]
      exact induction alone.2

/-- Fields of different names are all in their places once they were put there. -/
theorem insertAll_insertAll (different : (fields.map Prod.fst).Nodup) :
    (response.insertAll fields).insertAll fields = response.insertAll fields :=
  insertAll_of_values fun _ => values_insertAll_of_mem different

theorem insertAll_withBody (body : String) :
    (response.withBody body).insertAll fields = (response.insertAll fields).withBody body := by
  induction fields generalizing response with
  | nil => rfl
  | cons field rest induction => exact @induction (response.insert field.1 field.2)

end Response

end SessionGateway.Http
