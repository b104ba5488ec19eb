import Mathlib.Data.Fin.VecNotation
import Mathlib.Data.Set.Card
import Mathlib.Tactic.FinCases
import QueryRouting.Key.Fold

/-!
# The limbs of a hash

A hash has four limbs of sixteen bits.  The fold multiplies each by a number of its own and combines
the products bit by bit, and it does so on whole words, shifted but not cut off.  The bits above the
lowest sixteen have no part in the key, so the fold is the combination of the limbs themselves.
The four numbers are odd, so each multiplication can be undone: whatever three of the limbs are,
every key is reached by one value of the fourth, and no key is reached more often than another.

## Main definitions

* `limbs`, `ofLimbs` — the limbs of a word, and the word of four limbs.
* `scale` — what each limb is multiplied by.

## Main results

* `foldHash_eq` — the fold is made up of the limbs alone.
* `foldHash_update_bijective` — each limb reaches every key once.
* `ncard_key` — how many words have a key.
* `foldHash_even` — what the fold makes of the limbs.
-/

namespace QueryRouting

/-! ### Limbs -/

/-- The limbs of a word, the lowest first. -/
def limbs (h : UInt64) (i : Fin 4) : UInt16 := (h >>> UInt64.ofNat (16 * i)).toUInt16

/-- The word that four limbs make up. -/
def ofLimbs (w : Fin 4 → UInt16) : UInt64 :=
  UInt64.ofNat
    ((w 3).toNat * 2 ^ 48 + (w 2).toNat * 2 ^ 32 + (w 1).toNat * 2 ^ 16 + (w 0).toNat)

theorem toNat_limbs (h : UInt64) (i : Fin 4) :
    (limbs h i).toNat = h.toNat / 2 ^ (16 * i.val) % 2 ^ 16 := by
  have hi := i.isLt
  have hshift : (UInt64.ofNat (16 * i)).toNat % 64 = 16 * i := by
    rw [UInt64.toNat_ofNat']
    omega
  rw [limbs, UInt64.toNat_toUInt16, UInt64.toNat_shiftRight, hshift, Nat.shiftRight_eq_div_pow]

theorem toNat_ofLimbs (w : Fin 4 → UInt16) : (ofLimbs w).toNat
    = (w 3).toNat * 2 ^ 48 + (w 2).toNat * 2 ^ 32 + (w 1).toNat * 2 ^ 16 + (w 0).toNat := by
  have h₀ := (w 0).toNat_lt
  have h₁ := (w 1).toNat_lt
  have h₂ := (w 2).toNat_lt
  have h₃ := (w 3).toNat_lt
  rw [ofLimbs, UInt64.toNat_ofNat', Nat.mod_eq_of_lt (by omega)]

/-- Numbers of sixteen bits that make up a word are its limbs. -/
theorem toNat_limbs_of_eq {h : UInt64} {v : Fin 4 → Nat} (hv : ∀ i, v i < 2 ^ 16)
    (hword : h.toNat = v 3 * 2 ^ 48 + v 2 * 2 ^ 32 + v 1 * 2 ^ 16 + v 0) (i : Fin 4) :
    (limbs h i).toNat = v i := by
  have h₀ := hv 0
  have h₁ := hv 1
  have h₂ := hv 2
  have h₃ := hv 3
  rw [toNat_limbs, hword]
  fin_cases i <;> simp <;> omega

@[simp] theorem limbs_ofLimbs (w : Fin 4 → UInt16) : limbs (ofLimbs w) = w := by
  funext i
  apply UInt16.toNat_inj.mp
  exact toNat_limbs_of_eq (fun i => (w i).toNat_lt) (toNat_ofLimbs w) i

@[simp] theorem ofLimbs_limbs (h : UInt64) : ofLimbs (limbs h) = h := by
  have hlt := h.toNat_lt
  apply UInt64.toNat_inj.mp
  rw [toNat_ofLimbs, toNat_limbs, toNat_limbs, toNat_limbs, toNat_limbs]
  simp
  omega

/-! ### Scales -/

/-- What a limb is multiplied by, from the lowest limb up. -/
def scale : Fin 4 → UInt16
  | 0 => 7
  | 1 => 5
  | 2 => 3
  | 3 => 1

/-- What undoes the multiplication of a limb. -/
def unscale : Fin 4 → UInt16
  | 0 => 28087
  | 1 => 52429
  | 2 => 43691
  | 3 => 1

theorem scale_mul_unscale (i : Fin 4) : scale i * unscale i = 1 := by
  revert i
  decide

/-- **The multiplication of a limb can be undone**, since its scale is odd. -/
theorem mul_scale_bijective (i : Fin 4) : Function.Bijective fun x => x * scale i := by
  constructor
  · intro x y hscaled
    have hunscaled := congrArg (· * unscale i) hscaled
    simpa only [UInt16.mul_assoc, scale_mul_unscale, UInt16.mul_one] using hunscaled
  · intro y
    refine ⟨y * unscale i, ?_⟩
    change y * unscale i * scale i = y
    rw [UInt16.mul_assoc, UInt16.mul_comm (unscale i), scale_mul_unscale, UInt16.mul_one]

/-! ### The fold -/

/-- The mask leaves the lowest limb. -/
theorem toUInt16_mask (h : UInt64) : (h &&& 0xffff).toUInt16 = limbs h 0 := by
  have hmask : h.toNat &&& 0xffff = h.toNat % 2 ^ 16 := Nat.and_two_pow_sub_one_eq_mod h.toNat 16
  apply UInt16.toNat_inj.mp
  rw [UInt64.toNat_toUInt16, UInt64.toNat_and, toNat_limbs]
  change (h.toNat &&& 0xffff) % 2 ^ 16 = h.toNat / 1 % 2 ^ 16
  rw [hmask, Nat.mod_mod, Nat.div_one]

/-- **The fold is made up of the limbs alone**: what stands above them in the shifted words is cut
off in the end. -/
theorem foldHash_eq (h : UInt64) :
    foldHash h = limbs h 3 ^^^ limbs h 2 * 3 ^^^ limbs h 1 * 5 ^^^ limbs h 0 * 7 := by
  have hfirst : (h >>> 48).toUInt16 = limbs h 3 := rfl
  have hsecond : (h >>> 32).toUInt16 = limbs h 2 := rfl
  have hthird : (h >>> 16).toUInt16 = limbs h 1 := rfl
  simp only [foldHash, UInt64.toUInt16_xor, UInt64.toUInt16_mul]
  rw [hfirst, hsecond, hthird, toUInt16_mask]
  rfl

/-- With three limbs fixed, the fold combines something fixed with the scaled fourth limb. -/
theorem exists_foldHash_update (w : Fin 4 → UInt16) (i : Fin 4) :
    ∃ fixed, ∀ x, foldHash (ofLimbs (Function.update w i x)) = fixed ^^^ x * scale i := by
  have hfold : ∀ v, foldHash (ofLimbs v) = v 3 ^^^ v 2 * 3 ^^^ v 1 * 5 ^^^ v 0 * 7 := by
    intro v
    rw [foldHash_eq, limbs_ofLimbs]
  simp only [hfold]
  match i with
  | 0 => exact ⟨w 3 ^^^ w 2 * 3 ^^^ w 1 * 5, fun x => rfl⟩
  | 1 =>
    refine ⟨w 3 ^^^ w 2 * 3 ^^^ w 0 * 7, fun x => ?_⟩
    change w 3 ^^^ w 2 * 3 ^^^ x * 5 ^^^ w 0 * 7 = w 3 ^^^ w 2 * 3 ^^^ w 0 * 7 ^^^ x * 5
    ac_rfl
  | 2 =>
    refine ⟨w 3 ^^^ w 1 * 5 ^^^ w 0 * 7, fun x => ?_⟩
    change w 3 ^^^ x * 3 ^^^ w 1 * 5 ^^^ w 0 * 7 = w 3 ^^^ w 1 * 5 ^^^ w 0 * 7 ^^^ x * 3
    ac_rfl
  | 3 =>
    refine ⟨w 2 * 3 ^^^ w 1 * 5 ^^^ w 0 * 7, fun x => ?_⟩
    change x ^^^ w 2 * 3 ^^^ w 1 * 5 ^^^ w 0 * 7 = w 2 * 3 ^^^ w 1 * 5 ^^^ w 0 * 7 ^^^ x * 1
    rw [UInt16.mul_one]
    ac_rfl

/-- **Each limb reaches every key once**, whatever the other three are. -/
theorem foldHash_update_bijective (w : Fin 4 → UInt16) (i : Fin 4) :
    Function.Bijective fun x => foldHash (ofLimbs (Function.update w i x)) := by
  obtain ⟨fixed, hfixed⟩ := exists_foldHash_update w i
  simp only [hfixed]
  constructor
  · intro x y hkeys
    exact (mul_scale_bijective i).injective ((UInt16.xor_right_inj fixed).mp hkeys)
  · intro key
    obtain ⟨x, hx⟩ := (mul_scale_bijective i).surjective (fixed ^^^ key)
    refine ⟨x, ?_⟩
    change fixed ^^^ x * scale i = key
    rw [show x * scale i = fixed ^^^ key from hx, ← UInt16.xor_assoc, UInt16.xor_self,
      UInt16.zero_xor]

/-! ### The words of a key -/

/-- The words of a key are told apart by their upper limbs, which may be any three. -/
theorem upperLimbs_bijective (key : UInt16) :
    Function.Bijective fun h : {h // foldHash h = key} => Fin.tail (limbs h) := by
  have hlowest : ∀ upper : Fin 3 → UInt16,
      Function.Bijective fun x => foldHash (ofLimbs (Fin.cons x upper)) := by
    intro upper
    simpa only [Fin.update_cons_zero] using foldHash_update_bijective (Fin.cons 0 upper) 0
  have hword : ∀ h, ofLimbs (Fin.cons (limbs h 0) (Fin.tail (limbs h))) = h := by
    intro h
    rw [Fin.cons_self_tail, ofLimbs_limbs]
  constructor
  · rintro ⟨h, hh⟩ ⟨h', hh'⟩ hupper
    change Fin.tail (limbs h) = Fin.tail (limbs h') at hupper
    have hkeys : foldHash (ofLimbs (Fin.cons (limbs h 0) (Fin.tail (limbs h))))
        = foldHash (ofLimbs (Fin.cons (limbs h' 0) (Fin.tail (limbs h)))) := by
      rw [hword, hupper, hword, hh, hh']
    apply Subtype.ext
    change h = h'
    rw [← hword h, ← hword h', (hlowest _).injective hkeys, hupper]
  · intro upper
    obtain ⟨x, hx⟩ := (hlowest upper).surjective key
    refine ⟨⟨_, hx⟩, ?_⟩
    simp only [limbs_ofLimbs, Fin.tail_cons]

theorem card_limb : Nat.card UInt16 = 2 ^ 16 := by
  have hfin : Function.Bijective UInt16.toFin :=
    ⟨fun x y hxy => UInt16.toFin_inj.mp hxy, fun n => ⟨UInt16.ofFin n, rfl⟩⟩
  rw [Nat.card_eq_of_bijective _ hfin, Nat.card_fin]
  rfl

/-- **Every key has as many words as three limbs have values.** -/
theorem ncard_key (key : UInt16) : {h | foldHash h = key}.ncard = 2 ^ 48 := by
  rw [← Nat.card_coe_set_eq]
  refine (Nat.card_eq_of_bijective _ (upperLimbs_bijective key)).trans ?_
  rw [Nat.card_fun, card_limb, Nat.card_fin, ← Nat.pow_mul]

/-- **The fold uses every limb evenly.**  The key of a byte string is the combination, bit by bit,
of the four limbs of its hash, scaled by one, three, five and seven from the highest down and cut to
sixteen bits.  Whatever three limbs of a word are, the fourth leads to each key by one of its
values; and each key is that of one word in `2 ^ 16`. -/
theorem foldHash_even :
    (∀ bs (w : Fin 4 → Nat), (∀ i, w i < 2 ^ 16) →
      (mixHash bs 97).toNat = w 3 * 2 ^ 48 + w 2 * 2 ^ 32 + w 1 * 2 ^ 16 + w 0 →
      (keyOfBytes bs).toNat
        = w 3 ^^^ (3 * w 2 % 2 ^ 16) ^^^ (5 * w 1 % 2 ^ 16) ^^^ (7 * w 0 % 2 ^ 16)) ∧
      (∀ (w : Fin 4 → UInt16) (i : Fin 4),
        Function.Bijective fun x => foldHash (ofLimbs (Function.update w i x))) ∧
      ∀ key, {h | foldHash h = key}.ncard = 2 ^ 48 := by
  refine ⟨?_, foldHash_update_bijective, ncard_key⟩
  intro bs w hw hhash
  have hlimbs := toNat_limbs_of_eq hw hhash
  have hkey : keyOfBytes bs = foldHash (mixHash bs 97) := rfl
  rw [hkey, foldHash_eq, UInt16.toNat_xor, UInt16.toNat_xor, UInt16.toNat_xor, UInt16.toNat_mul,
    UInt16.toNat_mul, UInt16.toNat_mul, hlimbs, hlimbs, hlimbs, hlimbs, Nat.mul_comm (w 2),
    Nat.mul_comm (w 1), Nat.mul_comm (w 0)]
  rfl

/-- The hash of the empty string in its limbs, and its key. -/
theorem foldHash_even_of_empty :
    (mixHash [] 97).toNat = 0xc505 * 2 ^ 48 + 0xb216 * 2 ^ 32 + 0x9290 * 2 ^ 16 + 0x9bd5 ∧
      (keyOfBytes []).toNat = 0xc505 ^^^ (3 * 0xb216 % 2 ^ 16) ^^^ (5 * 0x9290 % 2 ^ 16) ^^^
        (7 * 0x9bd5 % 2 ^ 16) := by
  have hhash : (mixHash [] 97).toNat
      = 0xc505 * 2 ^ 48 + 0xb216 * 2 ^ 32 + 0x9290 * 2 ^ 16 + 0x9bd5 := by
    decide
  exact ⟨hhash, foldHash_even.1 [] ![0x9bd5, 0x9290, 0xb216, 0xc505] (by decide) hhash⟩

end QueryRouting
