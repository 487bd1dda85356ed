import Mathlib.Data.Nat.Digits
import Mathlib.Tactic.Ring

/-! The address a worker dials: `net.JoinHostPort(host.Address, strconv.Itoa(int(host.Port)))`.
Decimal printing never writes a colon and reads back, and `JoinHostPort` splits at the last colon,
so different access points get different addresses. -/

namespace DingoNode

/-- `TopologyConfigP2PAccessPoint`; the port is a Go `uint`. -/
structure TopologyConfigP2PAccessPoint where
  address : String
  port : BitVec 64
  deriving DecidableEq, Repr

/-- `net.JoinHostPort`: a host holding a colon is an IPv6 literal and goes in brackets. -/
def joinHostPort (host port : String) : String :=
  if host.data.contains ':' then "[" ++ host ++ "]:" ++ port else host ++ ":" ++ port

/-- `net.JoinHostPort(host.Address, strconv.Itoa(int(host.Port)))`. -/
def TopologyConfigP2PAccessPoint.dialAddress (host : TopologyConfigP2PAccessPoint) : String :=
  joinHostPort host.address (toString host.port.toInt)

/-- The digit characters `Nat.toDigits` writes in base ten read back as their values. -/
theorem digitChar_toNat : ∀ d < 10, (Nat.digitChar d).toNat - 48 = d ∧ Nat.digitChar d ≠ ':' ∧
    Nat.digitChar d ≠ '-' := by
  decide

/-- Decimal digits read back, most significant first. -/
def readDecimal (cs : List Char) : Nat := cs.foldl (fun acc c => 10 * acc + (c.toNat - 48)) 0

theorem foldl_readDecimal (a : Nat) (cs : List Char) :
    cs.foldl (fun acc c => 10 * acc + (c.toNat - 48)) a = a * 10 ^ cs.length + readDecimal cs := by
  induction cs generalizing a with
  | nil => simp [readDecimal]
  | cons c cs ih =>
    simp only [List.foldl_cons, readDecimal] at ih ⊢
    rw [ih, ih (10 * 0 + _), List.length_cons, Nat.pow_succ]
    ring

theorem readDecimal_cons (c : Char) (cs : List Char) :
    readDecimal (c :: cs) = (c.toNat - 48) * 10 ^ cs.length + readDecimal cs := by
  rw [readDecimal, List.foldl_cons, foldl_readDecimal]
  ring

/-- `Nat.toDigits` in base ten writes the digits of `n` in front of `ds`, using digit characters
only. -/
theorem toDigitsCore_spec (fuel n : Nat) (ds : List Char) (hf : n < fuel) :
    readDecimal (Nat.toDigitsCore 10 fuel n ds) = n * 10 ^ ds.length + readDecimal ds ∧
      ∃ digits, Nat.toDigitsCore 10 fuel n ds = digits ++ ds ∧
        ∀ c ∈ digits, c ≠ ':' ∧ c ≠ '-' := by
  induction fuel generalizing n ds with
  | zero => omega
  | succ fuel ih =>
    have hd := digitChar_toNat (n % 10) (Nat.mod_lt _ (by omega))
    simp only [Nat.toDigitsCore]
    split
    · rename_i h0
      refine ⟨?_, [Nat.digitChar (n % 10)], rfl, by simpa using hd.2⟩
      rw [readDecimal_cons, hd.1, Nat.mod_eq_of_lt (by omega)]
    · obtain ⟨hr, digits, hds, hc⟩ := ih (n / 10) (Nat.digitChar (n % 10) :: ds) (by omega)
      refine ⟨?_, digits ++ [Nat.digitChar (n % 10)], by simpa using hds, ?_⟩
      · rw [hr, readDecimal_cons, hd.1, List.length_cons, Nat.pow_succ]
        have := Nat.div_add_mod n 10
        calc n / 10 * (10 ^ ds.length * 10) + (n % 10 * 10 ^ ds.length + readDecimal ds)
            = (10 * (n / 10) + n % 10) * 10 ^ ds.length + readDecimal ds := by ring
          _ = n * 10 ^ ds.length + readDecimal ds := by rw [this]
      · exact fun c hc' => (List.mem_append.1 hc').elim (hc c)
          fun h => List.mem_singleton.1 h ▸ hd.2

theorem repr_spec (n : Nat) :
    readDecimal (Nat.repr n).data = n ∧ ∀ c ∈ (Nat.repr n).data, c ≠ ':' ∧ c ≠ '-' := by
  obtain ⟨hr, digits, hd, hc⟩ := toDigitsCore_spec (n + 1) n [] (by omega)
  refine ⟨by simpa [readDecimal] using hr, ?_⟩
  show ∀ c ∈ Nat.toDigitsCore 10 (n + 1) n [], _
  simpa [hd] using hc

/-- Decimal text of an `Int` read back. -/
def readInt (cs : List Char) : Int :=
  if cs.head? = some '-' then -(readDecimal cs.tail : Int) else readDecimal cs

theorem toString_int_data (i : Int) :
    (toString i).data = (if i < 0 then ['-'] else []) ++ (Nat.repr i.natAbs).data := by
  cases i with
  | ofNat m => rfl
  | negSucc m => simp [Int.negSucc_lt_zero]; rfl

theorem readInt_toString (i : Int) : readInt (toString i).data = i := by
  obtain ⟨hr, hc⟩ := repr_spec i.natAbs
  rw [toString_int_data, readInt]
  split <;> rename_i hi
  · simp [hr, abs_of_neg hi]
  · have hhead : (Nat.repr i.natAbs).data.head? ≠ some '-' := fun h =>
      (hc _ (List.mem_of_mem_head? h)).2 rfl
    rw [List.nil_append, if_neg hhead, hr]
    omega

/-- `strconv.Itoa` on Go `int`s, here `toString` on `Int`, never writes a colon and is injective. -/
theorem toString_int_spec (i : Int) :
    ':' ∉ (toString i).data ∧ ∀ j : Int, toString i = toString j → i = j := by
  refine ⟨fun h => ?_, fun j h => by rw [← readInt_toString i, ← readInt_toString j, h]⟩
  rw [toString_int_data] at h
  rcases List.mem_append.1 h with h | h
  · split at h <;> simp at h
  · exact ((repr_spec _).2 _ h).1 rfl

/-- Splitting at a colon is unique when the part before it has none. -/
theorem split_at_colon : ∀ {x₁ x₂ y₁ y₂ : List Char}, ':' ∉ x₁ → ':' ∉ x₂ →
    x₁ ++ ':' :: y₁ = x₂ ++ ':' :: y₂ → x₁ = x₂ ∧ y₁ = y₂
  | [], [], _, _, _, _, h => ⟨rfl, (List.cons.inj h).2⟩
  | [], b :: _, _, _, _, h₂, h => absurd ((List.cons.inj h).1 ▸ List.mem_cons_self _ _) h₂
  | a :: _, [], _, _, h₁, _, h => absurd ((List.cons.inj h).1 ▸ List.mem_cons_self _ _) h₁
  | a :: x₁, b :: x₂, y₁, y₂, h₁, h₂, h => by
    have ⟨hab, ht⟩ := List.cons.inj h
    have ⟨hx, hy⟩ := @split_at_colon x₁ x₂ y₁ y₂ (fun hm => h₁ (List.mem_cons_of_mem _ hm))
      (fun hm => h₂ (List.mem_cons_of_mem _ hm)) ht
    exact ⟨by rw [hab, hx], hy⟩

theorem joinHostPort_data (host port : String) :
    (joinHostPort host port).data =
      (if ':' ∈ host.data then '[' :: host.data ++ [']'] else host.data) ++ ':' :: port.data := by
  unfold joinHostPort
  split <;> simp_all

/-- `JoinHostPort` is injective on ports without a colon: the port is what follows the last
colon, and the host, bracketed or not, what precedes it. -/
theorem joinHostPort_injective {h₁ h₂ p₁ p₂ : String} (hp₁ : ':' ∉ p₁.data) (hp₂ : ':' ∉ p₂.data)
    (h : joinHostPort h₁ p₁ = joinHostPort h₂ p₂) : h₁ = h₂ ∧ p₁ = p₂ := by
  have hd := congrArg (fun s => (String.data s).reverse) h
  simp only [joinHostPort_data, List.reverse_append, List.reverse_cons, List.append_assoc,
    List.singleton_append] at hd
  obtain ⟨hp, hh⟩ := split_at_colon (by simpa using hp₁) (by simpa using hp₂) hd
  refine ⟨String.ext ?_, String.ext (List.reverse_inj.1 hp)⟩
  have hh := List.reverse_inj.1 hh
  split at hh <;> split at hh
  · simpa using hh
  · rename_i hc₁ hc₂; exact absurd (hh ▸ by simp [hc₁]) hc₂
  · rename_i hc₁ hc₂; exact absurd (hh.symm ▸ by simp [hc₂]) hc₁
  · exact hh

theorem dialAddress_injective : Function.Injective TopologyConfigP2PAccessPoint.dialAddress := by
  rintro ⟨a, p⟩ ⟨b, q⟩ h
  obtain ⟨ha, hp⟩ := joinHostPort_injective (toString_int_spec _).1 (toString_int_spec _).1 h
  have hpq : p = q := BitVec.toInt_inj.1 ((toString_int_spec _).2 _ hp)
  simp only at ha
  rw [ha, hpq]

end DingoNode
