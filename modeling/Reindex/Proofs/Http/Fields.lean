import Mathlib.Data.String.Basic
import Mathlib.Tactic.Common
import Reindex.Proofs.Http.Exchange

/-!
# Header fields of one name

A message has its header fields sorted by their names. Those of one name stay in the order in which the
request gives them; user name and password come first, and a request that says what it accepts is not
changed in that.
-/

namespace Reindex.Http

/-- The values of the header fields of one name, in their order. -/
def fieldValues (name : String) (headers : List (String × String)) : List String :=
  (headers.filter fun h => h.1 = name).map Prod.snd

variable {name : String} {headers : List (String × String)} {r : Request}

lemma fieldValues_append (headers' : List (String × String)) :
    fieldValues name (headers ++ headers') = fieldValues name headers ++ fieldValues name headers' := by
  rw [fieldValues, List.filter_append, List.map_append]
  rfl

lemma fieldValues_cons (field value : String) :
    fieldValues name ((field, value) :: headers) =
      (if field = name then [value] else []) ++ fieldValues name headers := by
  rw [fieldValues, List.filter_cons]
  by_cases h : field = name
  · rw [if_pos (decide_eq_true h), if_pos h]
    rfl
  · rw [if_neg (mt of_decide_eq_true h), if_neg h]
    rfl

lemma fieldValues_eq_nil (h : ∀ f ∈ headers, f.1 ≠ name) : fieldValues name headers = [] := by
  rw [fieldValues, List.filter_eq_nil_iff.mpr fun f hf => mt of_decide_eq_true (h f hf)]
  rfl

/-- By its name, a field comes before another one or has the same name. -/
def comesFirst (a b : String × String) : Bool := decide (a.1 ≤ b.1)

lemma comesFirst_trans (a b c : String × String) (hab : comesFirst a b = true)
    (hbc : comesFirst b c = true) : comesFirst a c = true :=
  decide_eq_true (le_trans (of_decide_eq_true hab) (of_decide_eq_true hbc))

lemma comesFirst_total (a b : String × String) : (comesFirst a b || comesFirst b a) = true := by
  simpa [comesFirst] using le_total a.1 b.1

/-- Sorting by names leaves the fields of one name in their order. -/
lemma fieldValues_mergeSort : fieldValues name (headers.mergeSort comesFirst) = fieldValues name headers := by
  -- Fields of one name are in order whichever comes first, so they stay a part of the sorted list.
  have hsame : (headers.filter fun h => h.1 = name).Pairwise fun a b => comesFirst a b = true := by
    refine List.pairwise_of_forall_mem_list fun a ha b hb => ?_
    rw [List.mem_filter, decide_eq_true_eq] at ha hb
    exact decide_eq_true (ha.2.trans hb.2.symm).le
  have hsublist : (headers.filter fun h => h.1 = name).Sublist (headers.mergeSort comesFirst) :=
    List.sublist_mergeSort comesFirst_trans comesFirst_total hsame List.filter_sublist
  have hfiltered := hsublist.filter fun h => h.1 = name
  simp only [List.filter_filter, Bool.and_self] at hfiltered
  have hperm := (headers.mergeSort_perm comesFirst).filter fun h => h.1 = name
  rw [fieldValues, ← hfiltered.eq_of_length hperm.length_eq.symm]
  rfl

namespace Request

lemma fieldValues_userinfoFields (url : Url) (h : name ≠ "authorization") :
    fieldValues name (userinfoFields url) = [] := by
  refine fieldValues_eq_nil fun f hf => ?_
  obtain ⟨c, -, rfl⟩ := List.mem_map.mp hf
  exact h.symm

/-- A request that does not say what it accepts is sent with its own fields, with the one that shows user
name and password, and with one that accepts anything. -/
lemma message_headers_perm (h : ∀ f ∈ r.headers, f.1 ≠ "accept") :
    r.message.headers.Perm (("accept", "*/*") :: (userinfoFields r.url ++ r.headers)) := by
  have hsilent : ¬ (userinfoFields r.url ++ r.headers).any (·.1 = "accept") = true := by
    rw [List.any_eq_true]
    rintro ⟨f, hf, hname⟩
    rcases List.mem_append.mp hf with hf | hf
    · obtain ⟨c, -, rfl⟩ := List.mem_map.mp hf
      exact absurd (of_decide_eq_true hname : "authorization" = "accept") (by decide)
    · exact h f hf (of_decide_eq_true hname)
  have hmessage : r.message.headers = (acceptAny r.withoutUserinfo.headers).mergeSort comesFirst := rfl
  rw [hmessage, withoutUserinfo_headers, acceptAny, if_neg hsilent]
  exact List.mergeSort_perm _ _

/-- The fields of one name in the message are those of the request behind the one that shows user name and
password. -/
lemma fieldValues_message {value : String} (h : ("accept", value) ∈ r.headers) :
    fieldValues name r.message.headers =
      fieldValues name (userinfoFields r.url) ++ fieldValues name r.headers := by
  have haccept : acceptAny r.withoutUserinfo.headers = r.withoutUserinfo.headers := by
    rw [acceptAny, if_pos]
    rw [withoutUserinfo_headers, List.any_eq_true]
    exact ⟨_, List.mem_append_right _ h, decide_eq_true rfl⟩
  have hmessage : r.message.headers = (acceptAny r.withoutUserinfo.headers).mergeSort comesFirst := rfl
  rw [hmessage, fieldValues_mergeSort, haccept, withoutUserinfo_headers, fieldValues_append]

end Request

end Reindex.Http
