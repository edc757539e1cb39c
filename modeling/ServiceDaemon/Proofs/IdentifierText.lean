/-
Purpose: The texts of service and instance identifiers, and that parsing gives
  back the identifier a text was made from.
Main exports: ServiceId.fromStr_fmt, InstanceId.fromStr_of_service,
  identifier_text_round_trip
-/
import ServiceDaemon.Core.ServiceRegistry

namespace ServiceDaemon

/-! ### Numbers -/

theorem le_ofDigitChars (digits : List Char) (result : Nat) :
    result ≤ Nat.ofDigitChars 10 digits result := by
  rw [Nat.ofDigitChars_eq_ofDigitChars_zero]
  have scaled : result ≤ 10 ^ digits.length * result :=
    Nat.le_mul_of_pos_left result (Nat.pow_pos (Nat.succ_pos 9))
  omega

/-- The loop computes the value of the digits when it fits. -/
theorem parseDigits_ok {max : Nat} {digits : List Char} {res : Nat}
    (decimal : ∀ digit ∈ digits, digit.isDigit = true)
    (fits : Nat.ofDigitChars 10 digits res ≤ max) :
    parseDigits max res digits = .ok (Nat.ofDigitChars 10 digits res) := by
  induction digits generalizing res with
  | nil => rfl
  | cons digit rest ih =>
    rw [Nat.ofDigitChars_cons] at fits ⊢
    have small := Nat.le_trans (le_ofDigitChars rest _) fits
    rw [parseDigits, if_pos (decimal digit List.mem_cons_self)]
    simp only [Nat.not_lt.mpr small, if_false]
    exact ih (fun other mem => decimal other (List.mem_cons_of_mem _ mem)) fits

theorem isDigit_of_toDigits {n : Nat} {digit : Char}
    (mem : digit ∈ Nat.toDigits 10 n) : digit.isDigit = true :=
  Nat.isDigit_of_mem_toDigits (Nat.succ_pos 9) (Nat.le_refl 10) mem

/-- A number that fits is parsed back from its text. -/
theorem parseUnsigned_toDigits {max n : Nat} (fits : n ≤ max) :
    parseUnsigned max (Nat.toDigits 10 n) = .ok n := by
  have value : Nat.ofDigitChars 10 (Nat.toDigits 10 n) 0 = n := Nat.ofDigitChars_ten_toDigits
  have parsed : parseDigits max 0 (Nat.toDigits 10 n) = .ok n := by
    rw [parseDigits_ok (fun _ => isDigit_of_toDigits) (by rwa [value]), value]
  cases text : Nat.toDigits 10 n with
  | nil => exact absurd text Nat.toDigits_ne_nil
  | cons first rest =>
    -- The first character is a digit, so it is not a sign.
    have digit : first.isDigit = true :=
      isDigit_of_toDigits (n := n) (by rw [text]; exact List.mem_cons_self)
    rw [text] at parsed
    unfold parseUnsigned
    split
    · contradiction
    · simp_all
    · simp_all
    · simp_all
    · exact parsed

/-! ### Identifiers -/

/-- The text without the prefix. -/
def ServiceId.bare (id : ServiceId) : List Char := Nat.toDigits 10 id.value

/-- The text without the prefix. -/
def InstanceId.bare (id : InstanceId) : List Char :=
  id.serviceId.bare ++ ':' :: Nat.toDigits 10 id.seq

theorem InstanceId.fmt_eq (id : InstanceId) : id.fmt = servicePrefix ++ id.bare := by
  simp [fmt, bare, ServiceId.fmt, ServiceId.bare]

theorem ServiceId.fromStr_fmt {id : ServiceId} (fits : id.value ≤ usizeMax) :
    fromStr id.fmt = .ok id := by
  have stripped : id.fmt.dropPrefix? servicePrefix = some id.bare := by
    simp [fmt, bare, servicePrefix, List.dropPrefix?]
  rw [fromStr, stripped, Option.getD_some, bare, parseUnsigned_toDigits fits]
  rfl

theorem ServiceId.fromStr_bare {id : ServiceId} (fits : id.value ≤ usizeMax) :
    fromStr id.bare = .ok id := by
  -- Digits do not begin with the prefix.
  have kept : id.bare.dropPrefix? servicePrefix = none := by
    cases text : id.bare with
    | nil => rfl
    | cons first rest =>
      have digit : first.isDigit = true :=
        isDigit_of_toDigits (n := id.value) (by rw [← bare, text]; exact List.mem_cons_self)
      have other : first ≠ 's' := by
        rintro rfl
        revert digit
        decide
      simp [servicePrefix, List.dropPrefix?, other]
  rw [fromStr, kept, Option.getD_none, bare, parseUnsigned_toDigits fits]
  rfl

theorem splitTwo_append {separator : Char} {part : List Char}
    (absent : separator ∉ part) (rest : List Char) :
    splitTwo separator (part ++ separator :: rest) = [part, rest] := by
  have before : ∀ letter ∈ part, decide (letter ≠ separator) = true := by
    intro letter mem
    exact decide_eq_true fun same => absent (same ▸ mem)
  rw [splitTwo, List.dropWhile_append_of_pos before, List.takeWhile_append_of_pos before]
  simp

theorem colon_notMem_toDigits (n : Nat) : ':' ∉ Nat.toDigits 10 n := by
  intro mem
  have digit := isDigit_of_toDigits mem
  revert digit
  decide

theorem InstanceId.fromStr_of_service {id : InstanceId} {svc : List Char} (absent : ':' ∉ svc)
    (parsed : ServiceId.fromStr svc = .ok id.serviceId) (fits : id.seq ≤ u64Max) :
    fromStr (svc ++ ':' :: Nat.toDigits 10 id.seq) = .ok id := by
  simp only [fromStr, splitTwo_append absent, parsed, parseUnsigned_toDigits fits]

/-- Parsing its text gives back the identifier, with and without the prefix, for
every `usize` and `u64`; so different identifiers have different texts. -/
theorem identifier_text_round_trip :
    (∀ id : Usize, (ServiceId.mk id).fmt = servicePrefix ++ (ServiceId.mk id).bare ∧
        ServiceId.fromStr (ServiceId.mk id).fmt = .ok ⟨id⟩ ∧
        ServiceId.fromStr (ServiceId.mk id).bare = .ok ⟨id⟩) ∧
      (∀ id seq : Usize, (InstanceId.mk ⟨id⟩ seq).fmt =
            servicePrefix ++ (InstanceId.mk ⟨id⟩ seq).bare ∧
          InstanceId.fromStr (InstanceId.mk ⟨id⟩ seq).fmt = .ok ⟨⟨id⟩, seq⟩ ∧
          InstanceId.fromStr (InstanceId.mk ⟨id⟩ seq).bare = .ok ⟨⟨id⟩, seq⟩) ∧
      (∀ id other : Usize, (ServiceId.mk id).fmt = (ServiceId.mk other).fmt → id = other) ∧
      ∀ id other seq later : Usize,
        (InstanceId.mk ⟨id⟩ seq).fmt = (InstanceId.mk ⟨other⟩ later).fmt →
          id = other ∧ seq = later := by
  have service : ∀ id : Usize,
      ServiceId.fromStr (ServiceId.mk id).fmt = .ok ⟨id⟩ :=
    fun id => ServiceId.fromStr_fmt id.le_max
  have instances : ∀ id seq : Usize,
      InstanceId.fromStr (InstanceId.mk ⟨id⟩ seq).fmt = .ok ⟨⟨id⟩, seq⟩ := by
    intro id seq
    refine InstanceId.fromStr_of_service ?_ (service id) seq.le_max
    simp [ServiceId.fmt, servicePrefix, colon_notMem_toDigits]
  refine ⟨fun id => ⟨rfl, service id, ServiceId.fromStr_bare id.le_max⟩,
    fun id seq => ⟨InstanceId.fmt_eq _, instances id seq, ?_⟩, ?_, ?_⟩
  · exact InstanceId.fromStr_of_service (colon_notMem_toDigits _)
      (ServiceId.fromStr_bare id.le_max) seq.le_max
  · intro id other same
    have parsed := service id
    rw [same, service other] at parsed
    simpa [Fin.ext_iff, eq_comm] using parsed
  · intro id other seq later same
    have parsed := instances id seq
    rw [same, instances other later] at parsed
    simpa [Fin.ext_iff, eq_comm] using parsed

end ServiceDaemon
