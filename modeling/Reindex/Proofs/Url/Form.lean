import Reindex.Proofs.Text.Alphanumeric
import Reindex.Proofs.Text.Blank
import Reindex.Proofs.Url.Cutting
import Reindex.Proofs.Url.Percent
import Reindex.Url.Query

/-!
# Forms, there and back

A form is read as the pairs that it was written from, whatever characters they are made of. For the signs
that hold a form together are encoded wherever they stand in a name or a value, so it is cut in the right
places; and a plus sign is encoded too, so every plus sign that is found was a space. Pairs that are put
behind the query of a URL are read behind the pairs of that query.
-/

namespace Reindex.Url

namespace Form

open Text

variable {s : String} {c : Char}

/-! ### Names and values -/

/-- The characters that are encoded in a form; a space is not, but it is written as a plus sign. -/
def isEscaped (c : Char) : Bool := !(isPlain c || c = ' ')

/-- A plus sign is read as a space. -/
def unplus (c : Char) : Char := if c = '+' then ' ' else c

lemma isPlain_of_isAlphanum (h : c.isAlphanum = true) : isPlain c = true := by
  rw [isPlain, h, Bool.true_or]

/-- The encoded text of a name or of a value has only plain characters, plus signs and the percent signs of
escapes. -/
lemma mem_encodeText (h : c ∈ encodeText s) : isPlain c = true ∨ c = '+' ∨ c = '%' := by
  obtain ⟨d, -, h⟩ := List.mem_flatMap.mp h
  unfold encodeChar at h
  split at h
  · exact .inr (.inl (List.mem_singleton.mp h))
  · split at h
    · rename_i hplain
      obtain rfl := List.mem_singleton.mp h
      exact .inl hplain
    · obtain ⟨b, -, hc⟩ := List.mem_flatMap.mp h
      rcases Percent.mem_escape hc with hpercent | hdigit
      · exact .inr (.inr hpercent)
      · exact .inl (isPlain_of_isAlphanum hdigit)

/-- The signs that hold a form together are in no name and in no value. -/
lemma ne_of_mem_encodeText (h : c ∈ encodeText s) : c ≠ '&' ∧ c ≠ '=' := by
  rcases mem_encodeText h with hplain | rfl | rfl
  · constructor
    · rintro rfl
      exact absurd hplain (by decide)
    · rintro rfl
      exact absurd hplain (by decide)
  · exact ⟨by decide, by decide⟩
  · exact ⟨by decide, by decide⟩

lemma toNat_lt_of_isPlain (h : isPlain c = true) : c.toNat < 0x80 := by
  rw [isPlain, Bool.or_eq_true] at h
  rcases h with h | h
  · exact toNat_lt_of_isAlphanum h
  · simp only [List.contains_iff_mem, List.mem_cons, List.not_mem_nil, or_false] at h
    rcases h with rfl | rfl | rfl | rfl <;> decide

lemma map_unplus_of_ne {cs : List Char} (h : ∀ c ∈ cs, c ≠ '+') : cs.map unplus = cs := by
  have hsame : ∀ c ∈ cs, unplus c = id c := fun c hc => if_neg (h c hc)
  rw [List.map_congr_left hsame, List.map_id]

/-- With its plus signs read as spaces, a form is percent-encoded. -/
lemma map_unplus_encodeChar (c : Char) :
    (encodeChar c).map unplus = Percent.encodeChar isEscaped c := by
  by_cases hspace : c = ' '
  · subst hspace
    decide
  · by_cases hplain : isPlain c = true
    · have hne : c ≠ '+' := by
        rintro rfl
        exact absurd hplain (by decide)
      have hsmall : ¬ 0x80 ≤ c.toNat := Nat.not_le.mpr (toNat_lt_of_isPlain hplain)
      simp [encodeChar, Percent.encodeChar, isEscaped, unplus, hspace, hplain, hne, hsmall]
    · have hescapes : ∀ d ∈ (String.utf8EncodeChar c).flatMap Percent.escape, d ≠ '+' := by
        rintro _ hd rfl
        obtain ⟨b, -, hb⟩ := List.mem_flatMap.mp hd
        rcases Percent.mem_escape hb with h | h
        · exact absurd h (by decide)
        · exact absurd h (by decide)
      simp [encodeChar, Percent.encodeChar, isEscaped, hspace, hplain, map_unplus_of_ne hescapes]

lemma map_unplus_encodeText (s : String) :
    (encodeText s).map unplus = Percent.encode isEscaped s.toList := by
  rw [encodeText, List.map_flatMap, Percent.encode]
  congr 1
  funext c
  exact map_unplus_encodeChar c

/-- A name or value is read as it was. -/
lemma decodeText_encodeText (s : String) : decodeText (encodeText s) = s := by
  have hoctets : Percent.decode ((encodeText s).map unplus) = Utf8.encode s := by
    rw [map_unplus_encodeText, Percent.decode_encode (by decide)]
    rfl
  unfold unplus at hoctets
  rw [decodeText, hoctets]
  exact Utf8.decodeLossy_of_decode? (Utf8.decode?_encode s)

/-! ### Pairs -/

/-- The first `=` is the one between name and value. -/
lemma decodePair_encodePair (p : String × String) : decodePair (encodePair p) = p := by
  have hname : ∀ c ∈ encodeText p.1, decide (c ≠ '=') = true :=
    fun c hc => decide_eq_true (ne_of_mem_encodeText hc).2
  have hsign : ∀ c ∈ ('=' :: encodeText p.2).head?, decide (c ≠ '=') = false := by
    rintro c ⟨⟩
    rfl
  rw [decodePair, encodePair, takeWhile_append_break hname hsign, dropWhile_append_break hname hsign,
    List.drop_succ_cons, List.drop_zero, decodeText_encodeText, decodeText_encodeText]

/-- No pair is left out because it has nothing in it: the `=` is always there. -/
lemma encodePair_ne_nil (p : String × String) : encodePair p ≠ [] := by
  simp [encodePair]

lemma not_mem_encodePair (p : String × String) : ∀ c ∈ encodePair p, decide (c = '&') = false := by
  intro c hc
  rw [decide_eq_false_iff_not]
  rw [encodePair, List.mem_append, List.mem_cons] at hc
  rcases hc with hc | rfl | hc
  · exact (ne_of_mem_encodeText hc).1
  · decide
  · exact (ne_of_mem_encodeText hc).1

/-- A form is read as the pairs that it was written from. -/
lemma decode_encode (ps : List (String × String)) : decode (encode ps) = ps := by
  by_cases hps : ps = []
  · subst hps
    rfl
  · have hcut : cutAt (· = '&') (encodeList ps) = ps.map encodePair := by
      rw [encodeList]
      apply cutAt_intercalate
      · intro piece hpiece
        obtain ⟨p, -, rfl⟩ := List.mem_map.mp hpiece
        exact not_mem_encodePair p
      · rfl
      · simpa using hps
    have hfull : (ps.map encodePair).filter (fun piece => decide (piece ≠ [])) = ps.map encodePair := by
      rw [List.filter_eq_self]
      intro piece hpiece
      obtain ⟨p, -, rfl⟩ := List.mem_map.mp hpiece
      exact decide_eq_true (encodePair_ne_nil p)
    rw [decode, encode, String.toList_ofList, hcut, hfull, List.map_map]
    have hsame : decodePair ∘ encodePair = id := funext decodePair_encodePair
    rw [hsame, List.map_id]

/-- Two forms with the sign between them are one form. -/
lemma decode_append (s t : String) : decode (s ++ "&" ++ t) = decode s ++ decode t := by
  have hlist : (s ++ "&" ++ t).toList = s.toList ++ '&' :: t.toList := by
    rw [String.toList_append, String.toList_append, List.append_assoc]
    rfl
  rw [decode, hlist, cutAt_append s.toList (decide_eq_true rfl), List.filter_append, List.map_append]
  rfl

end Form

/-- Nothing but the query is changed when pairs are appended, and the pairs that there were stay in front. -/
lemma exists_query_of_appendPairs (u : Url) {pairs : List (String × String)} (h : pairs ≠ []) :
    ∃ query, u.appendPairs pairs = { u with query := some query } ∧
      Form.decode query = u.queryPairs ++ pairs := by
  obtain ⟨p, rest, rfl⟩ := List.exists_cons_of_ne_nil h
  refine ⟨_, rfl, ?_⟩
  unfold queryPairs
  cases u.query with
  | none => rw [String.empty_append, Form.decode_encode]; rfl
  | some q =>
    dsimp only [Option.getD_some]
    by_cases hq : q.isEmpty = true
    · rw [if_pos hq, String.empty_append, Form.decode_encode, String.isEmpty_iff.mp hq]
      rfl
    · rw [if_neg hq, Form.decode_append, Form.decode_encode]

end Reindex.Url
