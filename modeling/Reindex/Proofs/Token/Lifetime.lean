import Reindex.Proofs.Calendar
import Reindex.Proofs.Json.Numbers
import Reindex.Proofs.Token.Answer

/-!
# Lifetimes of tokens

A token that has some seconds to live expires that many seconds from now, unless there are too many of
them or the calendar ends before that. In the answer of a token endpoint, the seconds may be a number or
a text that spells it, and both come to the same.
-/

namespace Reindex

open Text

variable {now : Instant} {s : Int}

namespace AccessToken

/-- The instant at which something expires that has so many seconds to live: negative numbers count as
zero. The seconds are not too many, and the instant has a date. -/
structure Ends (now : Instant) (s : Int) (expiry : Instant) : Prop where
  short : max s 0 ≤ 0x7FFFFFFFFFFFFFFF / 1000
  later : expiry.nanos = now.nanos + max s 0 * 1000000000
  dated : expiry.IsDated

/-- A token has so many seconds to live. -/
structure LivesFor (now : Instant) (s : Int) (t : AccessToken) : Prop where
  /-- Nothing that is computed of the seconds is beyond 64 bits. -/
  fits : Is64 (max s 0) ∧ (max s 0 ≤ 0x7FFFFFFFFFFFFFFF / 1000 →
    Is64 (max s 0 * 1000) ∧ Is64 (now.seconds + max s 0))
  expiry : ∀ e, t.expiresAt = some e ↔ Ends now s e
  /-- A token without any time to live is of no use already. -/
  expired : s ≤ 0 → ∀ later : Instant, now.nanos ≤ later.nanos → t.isExpired later = true
  /-- A token without an end is always of use. -/
  unending : (∀ e, ¬Ends now s e) → ∀ later, t.isExpired later = false

lemma expiry?_eq_some_iff {e : Instant} : expiry? now s = some e ↔ Ends now s e := by
  rw [expiry?, Option.ite_none_right_eq_some, Instant.addSeconds?, Option.ite_none_right_eq_some,
    Option.some.injEq, Instant.isInCalendar_iff, maxLifetime, Instant.nanosPerSecond]
  constructor
  · rintro ⟨hshort, hdated, rfl⟩
    exact ⟨hshort, rfl, hdated⟩
  · rintro ⟨hshort, hlater, hdated⟩
    have hinstant : (⟨now.nanos + max s 0 * 1000000000⟩ : Instant) = e := by rw [← hlater]
    rw [hinstant]
    exact ⟨hshort, hdated, rfl⟩

/-- Now is in the calendar, so a token without a time to live ends now. -/
lemma ends_now (hnow : now.IsDated) (hs : s ≤ 0) : Ends now s now where
  short := by
    rw [Int.max_eq_right hs]
    decide
  later := by rw [Int.max_eq_right hs, Int.zero_mul, Int.add_zero]
  dated := hnow

lemma livesFor_expiringIn (hnow : now.IsDated) (hs : Is64 s) (value : String) :
    LivesFor now s (expiringIn now value (some s)) where
  fits := by
    have hrange := (Instant.isInCalendar_iff now).mpr hnow
    rw [Instant.isInCalendar, Bool.and_eq_true, decide_eq_true_eq, decide_eq_true_eq,
      Instant.firstSecond, Instant.lastSecond] at hrange
    simp only [Is64] at hs ⊢
    omega
  expiry e := expiry?_eq_some_iff
  expired hzero later hlater := by
    have hend : expiry? now s = some now := expiry?_eq_some_iff.mpr (ends_now hnow hzero)
    rw [expiringIn, Option.bind_some, hend]
    exact decide_eq_true hlater
  unending hnever later := by
    have hnone : expiry? now s = none :=
      Option.eq_none_iff_forall_ne_some.mpr fun e he => hnever e (expiry?_eq_some_iff.mp he)
    rw [expiringIn, Option.bind_some, hnone]
    rfl

end AccessToken

/-! ### In answers -/

/-- The usual spelling of a number is a number of an answer. -/
lemma Json.int64?_toString (hs : Is64 s) : Json.int64? (toString s).toList = some s := by
  have hzero : (toString s).toList ≠ ['-', '0'] := by
    cases s with
    | ofNat n =>
      rw [Int.ofNat_eq_natCast, toList_toString_natCast]
      exact fun h => (not_sign_of_eq_paddedDigits h.symm).2 rfl
    | negSucc n =>
      rw [toList_toString_negSucc]
      intro h
      have hvalue := ofDigitChars_paddedDigits 0 (n + 1)
      rw [(List.cons.inj h).2] at hvalue
      cases hvalue
  have hplus : (toString s).toList.head? ≠ some '+' := by
    cases s with
    | ofNat n =>
      rw [Int.ofNat_eq_natCast, toList_toString_natCast]
      intro h
      obtain ⟨rest, hrest⟩ := List.head?_eq_some_iff.mp h
      exact (not_sign_of_eq_paddedDigits hrest.symm).1 rfl
    | negSucc n =>
      rw [toList_toString_negSucc]
      nofun
  rw [Json.int64?, if_neg hzero, if_neg hplus, intOfBits?_eq_some_iff]
  exact ⟨isNumeral_toString s, hs⟩

namespace TokenAnswer

variable {answer : Http.Response} {token : String} {field : Option Json} {lifetime : Option Int}

/-- A good answer with a token, and with something for its lifetime. -/
structure GivesToken (answer : Http.Response) (token : String) (field : Option Json) : Prop where
  complete : answer.body.complete = true
  success : 200 ≤ answer.status ∧ answer.status ≤ 299
  record : ∃ j, Json.readText? answer.body.lossyText = some j ∧
    Json.HasFields "access_token" (.string (some token)) "expires_in" field j
  not_blank : isBlank token = false

lemma GivesToken.read_eq (h : GivesToken answer token field) (hlifetime : IsLifetime field lifetime) :
    read now answer = .ok (.expiringIn now token lifetime) := by
  obtain ⟨j, hread, hfields⟩ := h.record
  exact (Means.token h.complete h.success ⟨j, field, hread, hfields, hlifetime⟩ h.not_blank).eq

/-- A token with any number of seconds to live, from any time on. It lives for as long as that, and so it
does if the seconds are in an answer, as a number or in a text with blanks around it that spells that
number. If a text spells no number of 64 bits, it is not known when the token expires. -/
theorem lifetimes (hnow : now.IsDated) :
    (∀ s, Is64 s → ∀ value, AccessToken.LivesFor now s (.expiringIn now value (some s))) ∧
    (∀ s, Is64 s → ∀ numeric textual token token' text numeral,
      GivesToken numeric token (some (.number (toString s).toList)) →
      GivesToken textual token' (some (.string (some text))) →
      IsTrimmed text numeral → IsNumeral numeral.toList s →
      ∃ t t', read now numeric = .ok t ∧ read now textual = .ok t' ∧ t.expiresAt = t'.expiresAt ∧
        AccessToken.LivesFor now s t ∧ AccessToken.LivesFor now s t') ∧
    ∀ textual token text numeral, GivesToken textual token (some (.string (some text))) →
      IsTrimmed text numeral → (∀ s, Is64 s → ¬IsNumeral numeral.toList s) →
      ∃ t, read now textual = .ok t ∧ t.expiresAt = none := by
  refine ⟨fun s hs value => AccessToken.livesFor_expiringIn hnow hs value, ?_, ?_⟩
  · intro s hs numeric textual token token' text numeral hnumeric htextual htrimmed hnumeral
    have hvalue : int64? (trim text) = some s := by
      rw [htrimmed.trim_eq, int64?, intOfBits?_eq_some_iff]
      exact ⟨hnumeral, hs⟩
    have hlifetime : IsLifetime (some (.string (some text))) (some s) := hvalue ▸ .text text
    exact ⟨_, _, hnumeric.read_eq (.number (Json.int64?_toString hs)), htextual.read_eq hlifetime, rfl,
      AccessToken.livesFor_expiringIn hnow hs token, AccessToken.livesFor_expiringIn hnow hs token'⟩
  · intro textual token text numeral htextual htrimmed hnone
    have hvalue : int64? (trim text) = none := by
      refine Option.eq_none_iff_forall_ne_some.mpr fun s hs => ?_
      rw [htrimmed.trim_eq, int64?, intOfBits?_eq_some_iff] at hs
      exact hnone s hs.2 hs.1
    have hlifetime : IsLifetime (some (.string (some text))) none := hvalue ▸ .text text
    exact ⟨_, htextual.read_eq hlifetime, rfl⟩

/-- A good answer with a token; what there is for its lifetime is put as it is. -/
def answerWith (lifetime : String) : Http.Response :=
  ⟨200, .ofText ("\x7b\"access_token\":\"t\",\"expires_in\":" ++ lifetime ++ "\x7d")⟩

/-- The tokens of the lifetime come behind those of the rest of the answer. -/
lemma tokens?_answerWith (lifetime : String) :
    Json.tokens? (Utf8.encode (answerWith lifetime).body.lossyText) =
      (Json.tokens? (Utf8.encode lifetime ++ [0x7D])).map fun more =>
        .leftBrace :: .string (some "access_token") :: .colon :: .string (some "t") :: .comma ::
          .string (some "expires_in") :: .colon :: more := by
  have hencode : Utf8.encode (answerWith lifetime).body.lossyText =
      0x7B :: 0x22 :: (Utf8.encode "access_token" ++ 0x22 :: 0x3A :: 0x22 :: (Utf8.encode "t" ++
        0x22 :: 0x2C :: 0x22 :: (Utf8.encode "expires_in" ++
          0x22 :: 0x3A :: (Utf8.encode lifetime ++ [0x7D])))) := by
    rw [answerWith, Http.Body.lossyText_ofText, Utf8.encode_append, Utf8.encode_append,
      List.append_assoc]
    rfl
  rw [hencode, Json.tokens?_mark rfl (t := .leftBrace) rfl, Json.tokens?_quoted (by decide),
    Json.tokens?_mark rfl (t := .colon) rfl, Json.tokens?_quoted (by decide),
    Json.tokens?_mark rfl (t := .comma) rfl, Json.tokens?_quoted (by decide),
    Json.tokens?_mark rfl (t := .colon) rfl]
  simp only [Option.map_map]
  rfl

/-- The answer gives what its text has for the lifetime, if that is one token. -/
lemma givesToken_answerWith {lifetime : String} {t : Json.Token} {field : Json}
    (htokens : Json.tokens? (Utf8.encode lifetime ++ [0x7D]) = some [t, .rightBrace])
    (hvalue : ∀ stack, Json.beginValue? stack t = some ⟨stack, .after field⟩) :
    GivesToken (answerWith lifetime) "t" (some field) where
  complete := rfl
  success := by
    show 200 ≤ 200 ∧ 200 ≤ 299
    decide
  record := by
    refine ⟨.object [(some "access_token", .string (some "t")), (some "expires_in", field)], ?_,
      Json.fields?_eq_two.mp rfl⟩
    have hopen : Json.beginValue? [] .leftBrace = some ⟨[], .keyOrEnd⟩ := rfl
    rw [Json.readText?, Json.read?, tokens?_answerWith, htokens]
    simp only [Option.map_some, Option.bind_some, Json.ofTokens?, Json.run?, Json.step?, hopen, hvalue]
    rfl
  not_blank := by decide

lemma givesToken_number (n : Nat) :
    GivesToken (answerWith (toString n)) "t" (some (.number (toString n).toList)) := by
  have hdigits : (toString n).toList = Nat.toDigits 10 n := String.toList_ofList
  have hbreak : ∀ b ∈ ([0x7D] : List UInt8).head?, Json.isNumberChar (Json.asChar b) = false := by
    rintro b ⟨⟩
    rfl
  refine givesToken_answerWith (t := .number (toString n).toList) ?_ fun _ => rfl
  rw [Utf8.encode, hdigits, Json.tokens?_digits n hbreak, Json.tokens?_mark rfl (t := .rightBrace) rfl,
    Json.tokens?]
  rfl

lemma givesToken_text {quoted text : String} (hquoted : quoted = "\"" ++ text ++ "\"")
    (h : Json.isPlain text = true) :
    GivesToken (answerWith quoted) "t" (some (.string (some text))) := by
  refine givesToken_answerWith (t := .string (some text)) ?_ fun _ => rfl
  have hencode : Utf8.encode quoted ++ [0x7D] = 0x22 :: (Utf8.encode text ++ 0x22 :: [0x7D]) := by
    rw [hquoted, Utf8.encode_append, Utf8.encode_append, List.append_assoc, List.append_assoc]
    rfl
  rw [hencode, Json.tokens?_quoted h, Json.tokens?_mark rfl (t := .rightBrace) rfl, Json.tokens?]
  rfl

/-- An hour is an hour, as a number or as a text; a word is none. -/
theorem lifetimes_hour :
    AccessToken.LivesFor ⟨0⟩ 3600 (.expiringIn ⟨0⟩ "t" (some 3600)) ∧
    (∃ t t', read ⟨0⟩ (answerWith "3600") = .ok t ∧ read ⟨0⟩ (answerWith "\" +03600 \"") = .ok t' ∧
      t.expiresAt = t'.expiresAt ∧ AccessToken.LivesFor ⟨0⟩ 3600 t ∧
      AccessToken.LivesFor ⟨0⟩ 3600 t') ∧
    ∃ t, read ⟨0⟩ (answerWith "\"soon\"") = .ok t ∧ t.expiresAt = none := by
  have hnow : (⟨0⟩ : Instant).IsDated := by
    rw [← Instant.isInCalendar_iff]
    decide
  have hfits : Is64 3600 := by
    constructor <;> decide
  have hnumeric : GivesToken (answerWith "3600") "t" (some (.number (toString (3600 : Int)).toList)) :=
    givesToken_number 3600
  have htextual : GivesToken (answerWith "\" +03600 \"") "t" (some (.string (some " +03600 "))) :=
    givesToken_text (by decide) (by decide)
  have hword : GivesToken (answerWith "\"soon\"") "t" (some (.string (some "soon"))) :=
    givesToken_text (by decide) (by decide)
  have htrimmed : IsTrimmed " +03600 " "+03600" := isTrimmed_trim " +03600 "
  have hnumeral : IsNumeral "+03600".toList 3600 := .plus 1 3600
  have hnone : ∀ s, Is64 s → ¬IsNumeral "soon".toList s := by
    intro s hs h
    have hvalue : intOfBits? 64 "soon".toList = none := by decide
    rw [intOfBits?_eq_some_iff.mpr ⟨h, hs⟩] at hvalue
    cases hvalue
  obtain ⟨hlives, halike, hunknown⟩ := lifetimes hnow
  exact ⟨hlives 3600 hfits "t", halike 3600 hfits _ _ _ _ _ _ hnumeric htextual htrimmed hnumeral,
    hunknown _ _ _ _ hword (isTrimmed_trim "soon") hnone⟩

end TokenAnswer

end Reindex
