/-
**Bytes come back from base64.**

* `digit_spec` — each of the sixty-four characters has its value.
* `decode?_encode` — **bytes of any number come back**, by groups of three with a last group of one,
  two or three.
* `forall_mem_encode` — nothing but the alphabet and the pad is written.
-/

import MessageBus.Text.Base64

namespace MessageBus.Text.Base64

/-- Each of the sixty-four characters has its value and is not the pad. -/
theorem digit_spec : ∀ n < 64, value? (digit n) = some n ∧ digit n ≠ '=' := by
  decide

/-- A group of four characters other than the pad holds three bytes. -/
theorem decode?_group {v w x y : Nat} (hv : v < 64) (hw : w < 64) (hx : x < 64) (hy : y < 64)
    (rest : List Char) :
    decode? (digit v :: digit w :: digit x :: digit y :: rest) =
      (decode? rest).map fun more => UInt8.ofNat (v * 4 + w / 16) ::
        UInt8.ofNat (w % 16 * 16 + x / 4) :: UInt8.ofNat (x % 4 * 64 + y) :: more := by
  rw [decode?, if_neg (digit_spec y hy).2, (digit_spec v hv).1, (digit_spec w hw).1,
    (digit_spec x hx).1, (digit_spec y hy).1]
  cases decode? rest <;> rfl

/-- **Bytes come back from their base64 text.** -/
theorem decode?_encode (bytes : List UInt8) : decode? (encode bytes) = some bytes := by
  have byte : ∀ (b : UInt8) {n : Nat}, n = b.toNat → UInt8.ofNat n = b := by
    rintro b _ rfl
    exact UInt8.ofNat_toNat
  fun_induction encode bytes with
  | case1 => rfl
  | case2 a =>
    -- The bits of the last digit that no byte takes are zero, as the reader demands.
    have small := a.toNat_lt
    rw [decode?, if_pos rfl, if_neg (by simp), if_pos rfl, lastOne?,
      (digit_spec _ (by omega)).1, (digit_spec _ (by omega)).1]
    simp only [Option.bind_eq_bind, Option.bind_some]
    rw [if_pos (by omega), byte a (by omega)]
  | case3 a b =>
    have small := a.toNat_lt
    have small' := b.toNat_lt
    rw [decode?, if_pos rfl, if_neg (by simp), if_neg (digit_spec _ (by omega)).2, lastTwo?,
      (digit_spec _ (by omega)).1, (digit_spec _ (by omega)).1, (digit_spec _ (by omega)).1]
    simp only [Option.bind_eq_bind, Option.bind_some]
    rw [if_pos (by omega), byte a (by omega), byte b (by omega)]
  | case4 a b c rest ih =>
    have small := a.toNat_lt
    have small' := b.toNat_lt
    have small'' := c.toNat_lt
    rw [decode?_group (by omega) (by omega) (by omega) (by omega), ih, Option.map_some,
      byte a (by omega), byte b (by omega), byte c (by omega)]

/-- A property of the alphabet and of the pad holds of every character that is written. -/
theorem forall_mem_encode {p : Char → Prop} (alphabet : ∀ n < 64, p (digit n)) (pad : p '=')
    (bytes : List UInt8) : ∀ c ∈ encode bytes, p c := by
  fun_induction encode bytes with
  | case1 => nofun
  | case2 a =>
    have small := a.toNat_lt
    simp only [List.forall_mem_cons]
    exact ⟨alphabet _ (by omega), alphabet _ (by omega), pad, pad, nofun⟩
  | case3 a b =>
    have small := a.toNat_lt
    have small' := b.toNat_lt
    simp only [List.forall_mem_cons]
    exact ⟨alphabet _ (by omega), alphabet _ (by omega), alphabet _ (by omega), pad, nofun⟩
  | case4 a b c rest ih =>
    have small := a.toNat_lt
    have small' := b.toNat_lt
    have small'' := c.toNat_lt
    simp only [List.forall_mem_cons]
    exact ⟨alphabet _ (by omega), alphabet _ (by omega), alphabet _ (by omega),
      alphabet _ (by omega), ih⟩

end MessageBus.Text.Base64
