import Turnstile.Guard.Exchange
import Mathlib.Data.List.TakeWhile
/-!
Status codes as they are sent. A numeral in the field of the status, with zeros before it and blanks
around it as may be, is read as the code of its number. From a certain number on it is not read any
more, and the response counts as one that says nothing of its status.
-/
namespace Turnstile

namespace Text

theorem isDigit_iff {c : Char} : c.isDigit = true ↔ 48 ≤ c.toNat ∧ c.toNat ≤ 57 := by
  simp [Char.isDigit, UInt32.le_iff_toNat_le]

theorem digitValue?_of_isDigit {c : Char} (h : c.isDigit = true) :
    digitValue? 10 c = some (c.toNat - 48) := by
  obtain ⟨hlow, hhigh⟩ := isDigit_iff.1 h
  simp only [digitValue?, hlow, hhigh, decide_true, Bool.and_self, if_true]
  exact Option.filter_some_pos (decide_eq_true (by omega))

theorem dropWhile_isBlank {blanks word rest : List Char} (hb : ∀ c ∈ blanks, isBlank c = true)
    (hne : word ≠ []) (hw : ∀ c ∈ word, isBlank c = false) :
    (blanks ++ (word ++ rest)).dropWhile isBlank = word ++ rest := by
  rw [List.dropWhile_append_of_pos hb]
  cases word with
  | nil => exact absurd rfl hne
  | cons c cs => exact List.dropWhile_cons_of_neg (by simp [hw c List.mem_cons_self])

/-- A decimal numeral of any length, with spaces and tabs around it. -/
structure Numeral where
  before : List Char
  digits : List Char
  after : List Char
  blank : ∀ c ∈ before ++ after, c = ' ' ∨ c = '\t'
  decimal : ∀ c ∈ digits, c.isDigit = true
  nonempty : digits ≠ []

namespace Numeral

def text (d : Numeral) : String := String.ofList (d.before ++ d.digits ++ d.after)

def value (d : Numeral) : Nat := Nat.ofDigitChars 10 d.digits 0

theorem isBlank_of_mem (d : Numeral) {c : Char} (hc : c ∈ d.before ++ d.after) :
    isBlank c = true := by
  rcases d.blank c hc with rfl | rfl <;> decide

theorem not_isBlank_of_mem (d : Numeral) {c : Char} (hc : c ∈ d.digits) : isBlank c = false := by
  obtain ⟨hlow, hhigh⟩ := isDigit_iff.1 (d.decimal c hc)
  simp only [isBlank, Bool.or_eq_false_iff, Bool.and_eq_false_iff, decide_eq_false_iff_not,
    beq_eq_false_iff_ne]
  omega

theorem isReadable_text (d : Numeral) : isReadable d.text = true := by
  rw [isReadable, text, String.toList_ofList, List.all_eq_true]
  intro c hc
  have hmem : c ∈ d.before ++ d.after ∨ c ∈ d.digits := by
    rw [List.mem_append, List.mem_append] at hc
    rw [List.mem_append]
    exact or_right_comm.1 hc
  rcases hmem with hblank | hdigit
  · rcases d.blank c hblank with rfl | rfl <;> decide
  · obtain ⟨hlow, hhigh⟩ := isDigit_iff.1 (d.decimal c hdigit)
    simp only [Bool.or_eq_true, Bool.and_eq_true, decide_eq_true_eq]
    omega

theorem trimmed_text (d : Numeral) : trimmed d.text.toList = d.digits := by
  -- Blanks behind the digits are dropped as blanks before them, of the reversed text.
  have hfront : (d.before ++ (d.digits ++ d.after)).dropWhile isBlank = d.digits ++ d.after :=
    dropWhile_isBlank (fun c hc => d.isBlank_of_mem (List.mem_append_left _ hc)) d.nonempty
      fun c hc => d.not_isBlank_of_mem hc
  have hback : (d.after.reverse ++ (d.digits.reverse ++ [])).dropWhile isBlank =
      d.digits.reverse ++ [] :=
    dropWhile_isBlank (fun c hc => d.isBlank_of_mem (List.mem_append_right _ (List.mem_reverse.1 hc)))
      (by simpa using d.nonempty) fun c hc => d.not_isBlank_of_mem (List.mem_reverse.1 hc)
  rw [trimmed, text, String.toList_ofList, List.append_assoc, hfront, List.reverse_append]
  rw [List.append_nil] at hback
  rw [hback, List.reverse_reverse]

theorem mapM_digitValue? {cs : List Char} (h : ∀ c ∈ cs, c.isDigit = true) :
    cs.mapM (digitValue? 10) = some (cs.map fun c => c.toNat - 48) := by
  induction cs with
  | nil => rfl
  | cons c cs ih =>
    rw [List.mapM_cons, digitValue?_of_isDigit (h c List.mem_cons_self),
      ih fun x hx => h x (List.mem_cons_of_mem c hx)]
    rfl

theorem natural?_digits (d : Numeral) : natural? d.digits = some d.value := by
  have hvalue : digitsValue 10 (d.digits.map fun c => c.toNat - 48) = d.value := by
    rw [digitsValue, List.foldl_map, value, Nat.ofDigitChars_eq_foldl]
    simp only [Nat.mul_comm]
    rfl
  rw [natural?, if_neg (by simpa using d.nonempty), mapM_digitValue? d.decimal, Option.map_some,
    hvalue]

theorem integer?_digits (d : Numeral) : integer? d.digits = some (d.value : Int) := by
  have hsign (c : Char) (hc : c.isDigit = false) : c ∉ d.digits := fun hmem => by
    simp [d.decimal c hmem] at hc
  unfold integer?
  split
  · next cs h => exact absurd (h ▸ List.mem_cons_self) (hsign '-' rfl)
  · next cs h => exact absurd (h ▸ List.mem_cons_self) (hsign '+' rfl)
  · rw [natural?_digits, Option.map_some]
    rfl

theorem int32?_text (d : Numeral) :
    int32? (trimmed d.text.toList) =
      if d.value ≤ 2147483647 then some (d.value : Int) else none := by
  rw [trimmed_text, int32?, integer?_digits, Option.filter_some]
  have hrange : (decide (-2147483648 ≤ (d.value : Int)) && decide ((d.value : Int) ≤ 2147483647)) =
      decide (d.value ≤ 2147483647) := by
    rw [Bool.eq_iff_iff]
    simp only [Bool.and_eq_true, decide_eq_true_eq]
    omega
  rw [hrange]
  simp only [decide_eq_true_eq]

end Numeral
end Text

namespace Code

theorem number_ofNumber {n : Nat} (h : n ≤ 16) : (ofNumber n).number = n := by
  have hall : ∀ n < 17, (ofNumber (n : Nat)).number = n := by decide
  exact hall n (Nat.lt_succ_of_le h)

theorem ofNumber_of_lt {n : Nat} (h : 16 < n) : ofNumber n = .unknown := by
  have hnone : all[n]? = none := List.getElem?_eq_none h
  change all[n]?.getD .unknown = .unknown
  rw [hnone, Option.getD_none]

end Code

theorem Headers.statusCode?_numeral {h : Headers} {d : Text.Numeral}
    (hd : h.first? statusHeader = some d.text) :
    h.statusCode? = if d.value ≤ 2147483647 then some (.ofNumber d.value) else none := by
  rw [statusCode?, readable?, hd, Option.filter_some, if_pos d.isReadable_text, Option.bind_some,
    d.int32?_text]
  split <;> rfl

/-- A numeral for a status is honoured in the head of a response, whatever its line says, and in trailers:
it gives the code of its number, and the unknown code if none has it. Beyond 32 bits it is taken
for no status at all. -/
theorem CallStatus.numeral_honoured {h : Headers} {d : Text.Numeral}
    (hd : h.first? statusHeader = some d.text) :
    (d.value ≤ 2147483647 →
        ∃ code : Code, (d.value ≤ 16 → code.number = d.value) ∧ (16 < d.value → code = .unknown) ∧
          (∀ line, ofResponse line h = ⟨code, .callee⟩) ∧
          (Frame.trailers h).finalStatus? = some ⟨code, .callee⟩) ∧
      (2147483647 < d.value →
        (∀ line, ofResponse line h = ofResponse line .empty) ∧
          (Frame.trailers h).finalStatus? = some .ok) := by
  have hcode := Headers.statusCode?_numeral hd
  refine ⟨fun hle => ?_, fun hlt => ?_⟩
  · rw [if_pos hle] at hcode
    refine ⟨.ofNumber d.value, Code.number_ofNumber, Code.ofNumber_of_lt, fun line => ?_, ?_⟩
    · simp only [ofResponse, hcode, ofCallee]
    · simp only [Frame.finalStatus?, hcode, ofCallee, Option.getD_some]
  · rw [if_neg (Nat.not_le.2 hlt)] at hcode
    have hempty : Headers.empty.statusCode? = none := rfl
    refine ⟨fun line => ?_, ?_⟩
    · simp only [ofResponse, hcode, hempty]
    · simp only [Frame.finalStatus?, hcode, Option.getD_none, ok]

/-- Zeros before a number and blanks around it are no hindrance. -/
theorem CallStatus.padded_numeral_honoured :
    let h := Headers.ofList [("grpc-status", " 0000000000016\t"), ("grpc-status", "0")]
    (∀ line, ofResponse line h = ⟨.unauthenticated, .callee⟩) ∧
      (Frame.trailers h).finalStatus? = some ⟨.unauthenticated, .callee⟩ := by
  intro h
  let d : Text.Numeral := {
    before := [' ']
    digits := "0000000000016".toList
    after := ['\t']
    blank := by simp
    decimal := List.all_eq_true.1 (by decide)
    nonempty := by decide }
  have hd : h.first? statusHeader = some d.text := by decide +kernel
  have hvalue : d.value = 16 := by decide
  obtain ⟨code, hnumber, -, hhead, htrailers⟩ := (numeral_honoured hd).1 (by rw [hvalue]; decide)
  have hcode : code = .unauthenticated := by
    rw [← Code.ofNumber_number code, hnumber (le_of_eq hvalue), hvalue]
    rfl
  exact ⟨hcode ▸ hhead, hcode ▸ htrailers⟩

/-- A number of more than 32 bits is taken for no status, and so for success. -/
theorem CallStatus.long_numeral_ignored :
    let h := Headers.ofList [("grpc-status", "2147483648")]
    ofResponse 200 h = .ok ∧ (Frame.trailers h).finalStatus? = some .ok := by
  decide +kernel

end Turnstile
