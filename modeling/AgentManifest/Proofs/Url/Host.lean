import Mathlib.Data.List.Basic
import Mathlib.Tactic.IntervalCases
import AgentManifest.Url.Basic
import AgentManifest.Proofs.Outcome
import AgentManifest.Proofs.Url.Path

/-! Nothing that is written in front of the path of an address ends that part of the address:
neither users and passwords, nor names of machines of any script, nor their numbers. -/

namespace AgentManifest.Url

/-- The characters at which the parts of an address end. -/
def separates (c : Char) : Bool := c = '/' || c = '?' || c = '#'

theorem separates_iff {c : Char} : separates c ↔ c = '/' ∨ c = '?' ∨ c = '#' := by
  simp [separates, or_assoc]

def Unbroken (text : List Char) : Prop := ∀ c ∈ text, separates c = false

@[simp] theorem unbroken_nil : Unbroken [] := fun _ mem => absurd mem List.not_mem_nil

@[simp] theorem unbroken_cons {c : Char} {text : List Char} :
    Unbroken (c :: text) ↔ separates c = false ∧ Unbroken text := List.forall_mem_cons

@[simp] theorem unbroken_append {a b : List Char} :
    Unbroken (a ++ b) ↔ Unbroken a ∧ Unbroken b := List.forall_mem_append

theorem unbroken_joinWith {separator : Char} {pieces : List (List Char)}
    (between : separates separator = false) (each : ∀ piece ∈ pieces, Unbroken piece) :
    Unbroken (Text.joinWith separator pieces) := by
  intro c mem
  obtain rfl | ⟨piece, listed, mem⟩ := Text.mem_joinWith mem
  · exact between
  · exact each piece listed c mem

theorem unbroken_percentEncode {escapes : Char → Bool} {text : List Char}
    (escaped : ∀ c ∈ text, separates c → escapes c) : Unbroken (percentEncode escapes text) := by
  intro c mem
  obtain rfl | ⟨n, bound, rfl⟩ | ⟨given, stands⟩ := mem_percentEncode mem
  · rfl
  · interval_cases n <;> rfl
  · rw [← Bool.not_eq_true]
    intro breaks
    rw [escaped c given breaks] at stands
    cases stands

theorem separates_digitChar {n : Nat} (bound : n < 16) : separates n.digitChar = false := by
  interval_cases n <;> rfl

theorem unbroken_toDigits {base : Nat} (least : 1 < base) (most : base ≤ 16) (n : Nat) :
    Unbroken (Nat.toDigits base n) := by
  induction n using Nat.strongRecOn with
  | ind n ih =>
      rw [Nat.toDigits_eq_if least]
      split
      · simp [separates_digitChar (n := n) (by omega)]
      · have fewer : n / base < n := Nat.div_lt_self (by omega) least
        have last : n % base < 16 := (Nat.mod_lt n (by omega)).trans_le most
        simp [ih _ fewer, separates_digitChar last]

theorem unbroken_toString (n : Nat) : Unbroken (toString n).toList := by
  have digits : (toString n).toList = Nat.toDigits 10 n := Nat.toList_repr
  rw [digits]
  exact unbroken_toDigits (by decide) (by decide) n

theorem Ipv4.unbroken_text (address : Nat) : Unbroken (Ipv4.text address) :=
  unbroken_joinWith rfl (by simp only [List.forall_mem_cons, unbroken_toString]; simp)

theorem Ipv6.unbroken_piecesText (pieces : List Nat) : Unbroken (Ipv6.piecesText pieces) := by
  refine unbroken_joinWith rfl fun piece listed => ?_
  obtain ⟨n, -, rfl⟩ := List.mem_map.mp listed
  exact unbroken_toDigits (by decide) (by decide) n

theorem Ipv6.unbroken_text (pieces : List Nat) : Unbroken (Ipv6.text pieces) := by
  rw [Ipv6.text]
  split
  · exact unbroken_piecesText pieces
  · simp [unbroken_piecesText, separates]

namespace Punycode

theorem separates_digitChar {d : Nat} (bound : d < 36) : separates (digitChar d) = false := by
  interval_cases d <;> rfl

theorem unbroken_numberDigits (bias place n : Nat) : Unbroken (numberDigits bias place n) := by
  induction place, n using numberDigits.induct bias with
  | case1 place n t last =>
      have most := threshold_le bias place
      rw [numberDigits, if_pos last, unbroken_cons]
      exact ⟨separates_digitChar (by omega), unbroken_nil⟩
  | case2 place n t more ih =>
      have most : t ≤ 26 := threshold_le bias place
      have digit : (n - t) % (36 - t) < 36 - t := Nat.mod_lt _ (by omega)
      have bound : t + (n - t) % (36 - t) < 36 := by omega
      rw [numberDigits, if_neg more, unbroken_cons]
      exact ⟨separates_digitChar bound, ih⟩

theorem unbroken_step {basic codePoint : Nat} {w : Writing} (c : Char)
    (sofar : Unbroken w.written) : Unbroken (w.step basic codePoint c).written := by
  rw [Writing.step]
  split_ifs
  · exact sofar
  · exact unbroken_append.mpr ⟨sofar, unbroken_numberDigits _ _ _⟩
  · exact sofar

theorem unbroken_all {text : List Char} {basic least : Nat} {codePoints : List Nat} {w : Writing}
    (sofar : Unbroken w.written) :
    Unbroken (Writing.all text basic least codePoints w).written := by
  induction codePoints generalizing least w with
  | nil => exact sofar
  | cons codePoint rest ih =>
      rw [Writing.all]
      have stepped : ∀ w : Writing, Unbroken w.written →
          Unbroken (text.foldl (Writing.step basic codePoint) w).written := fun w sofar =>
        List.foldlRecOn text _ (motive := fun w : Writing => Unbroken w.written) sofar
          fun _ sofar c _ => unbroken_step c sofar
      exact ih (stepped _ sofar)

theorem unbroken_encode {text : List Char} (whole : Unbroken text) : Unbroken (encode text) := by
  have basic : Unbroken (text.filter fun c => c.toNat < 128) :=
    fun c mem => whole c (List.mem_of_mem_filter mem)
  rw [encode]
  refine unbroken_append.mpr ⟨?_, unbroken_all unbroken_nil⟩
  split
  · exact unbroken_nil
  · simp [basic, separates]

end Punycode

namespace Domain

theorem unbroken_of_isValid {label : List Char} (valid : isValid label) : Unbroken label := by
  simp only [isValid, Bool.and_eq_true, List.all_eq_true] at valid
  intro c mem
  have allowed := valid.1.1 c mem
  rw [← Bool.not_eq_true]
  intro breaks
  obtain rfl | rfl | rfl := separates_iff.mp breaks
  all_goals cases allowed

theorem unbroken_of_label? {text : List Char} {label : Label} (read : label? text = some label) :
    Unbroken label.text := by
  unfold label? at read
  split at read
  next =>
    split at read
    next =>
      split at read
      next accepted =>
        cases read
        simp only [Bool.and_eq_true] at accepted
        exact unbroken_of_isValid accepted.2
      next => cases read
    next => cases read
  next =>
    split at read
    next valid =>
      cases read
      exact unbroken_of_isValid valid
    next => cases read

theorem unbroken_labelText {label : Label} (whole : Unbroken label.text) :
    Unbroken (labelText label) := by
  rw [labelText]
  split
  · exact whole
  · simp [Punycode.unbroken_encode whole, separates]

theorem unbroken_of_toAscii? {bytes : List UInt8} {name : List Char}
    (read : toAscii? bytes = some name) : Unbroken name := by
  simp only [toAscii?, Option.bind_eq_bind, Option.bind_eq_some_iff] at read
  obtain ⟨_, _, _, _, labels, parsed, read⟩ := read
  split at read
  next => cases read
  next =>
    cases read
    refine unbroken_joinWith rfl fun piece listed => ?_
    obtain ⟨label, mem, rfl⟩ := List.mem_map.mp listed
    obtain ⟨text, -, read⟩ := exists_of_mem_mapM parsed label mem
    exact unbroken_labelText (unbroken_of_label? read)

end Domain

theorem Host.unbroken_text {text : List Char} {host : Host} (parsed : Host.parse text = .ok host) :
    Unbroken host.text := by
  unfold Host.parse at parsed
  split at parsed
  next =>
    split at parsed
    next =>
      split at parsed
      next =>
        cases parsed
        simp [Host.text, Ipv6.unbroken_text, separates]
      next => cases parsed
    next => cases parsed
  next =>
    split at parsed
    next => cases parsed
    next => cases parsed
    next name read =>
      split at parsed
      next =>
        split at parsed
        next =>
          cases parsed
          exact Ipv4.unbroken_text _
        next => cases parsed
      next =>
        cases parsed
        exact Domain.unbroken_of_toAscii? read

theorem SecureUrl.unbroken_credentialsText (given : List Char) :
    Unbroken (SecureUrl.credentialsText given) := by
  have coded : ∀ text, Unbroken (percentEncode credentialEscapes text) := fun text =>
    unbroken_percentEncode fun c _ breaks => by
      obtain rfl | rfl | rfl := separates_iff.mp breaks
      all_goals rfl
  rw [SecureUrl.credentialsText]
  split_ifs
  · exact unbroken_nil
  · simp [coded, separates]
  · simp [coded, separates]

theorem SecureUrl.unbroken_credentials (text : List Char) :
    Unbroken (SecureUrl.splitCredentials text).1 := by
  rw [SecureUrl.splitCredentials]
  split_ifs
  · exact unbroken_nil
  · exact unbroken_credentialsText _

end AgentManifest.Url
