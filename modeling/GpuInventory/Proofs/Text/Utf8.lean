import GpuInventory.Text.Utf8

/-!
UTF-8 in both directions: bytes are decoded to a text exactly if they are its encoding.

`Encodes` says which bytes a code point has, by the bits that it leaves to each of them.  It is the
middle between the two sides: a character is written with the bytes of its code point, and a piece
that is a character consists of the bytes of one.  The bounds on the second byte of a character are
the conditions of `Encodes` that keep out the longer forms, the surrogates and what is beyond the
last code point, so that no bytes but the encoding of a text are ever decoded to it.

The pieces of some bytes are all of them, and that is what makes the statement on texts follow from
the one on characters.  The last section shows that the encoding is that of the library's own
strings.
-/

namespace GpuInventory
namespace Utf8

/-! ## First bytes -/

theorem lead?_one {k : Nat} (h : k < 0x80) : lead? k = some ⟨0, 0x80, 0xBF, k⟩ :=
  if_pos h

theorem lead?_two {k : Nat} (hlow : 2 ≤ k) (hhigh : k < 0x20) :
    lead? (0xC0 + k) = some ⟨1, 0x80, 0xBF, k⟩ := by
  rw [lead?, if_neg (by omega), if_neg (by omega), if_pos (by omega), Nat.add_sub_cancel_left]

theorem lead?_three {k : Nat} (h : k < 0x10) :
    lead? (0xE0 + k) =
      some ⟨2, if k = 0 then 0xA0 else 0x80, if k = 0xD then 0x9F else 0xBF, k⟩ := by
  rw [lead?, if_neg (by omega), if_neg (by omega), if_neg (by omega)]
  by_cases h0 : k = 0
  · subst h0
    rfl
  by_cases hD : k = 0xD
  · subst hD
    rfl
  rw [if_neg (by omega), if_neg (by omega), if_pos (by omega), if_neg h0, if_neg hD,
    Nat.add_sub_cancel_left]

theorem lead?_four {k : Nat} (h : k ≤ 4) :
    lead? (0xF0 + k) =
      some ⟨3, if k = 0 then 0x90 else 0x80, if k = 4 then 0x8F else 0xBF, k⟩ := by
  rw [lead?, if_neg (by omega), if_neg (by omega), if_neg (by omega), if_neg (by omega),
    if_neg (by omega), if_neg (by omega)]
  by_cases h0 : k = 0
  · subst h0
    rfl
  by_cases h4 : k = 4
  · subst h4
    rfl
  rw [if_neg (by omega), if_pos (by omega), if_neg h0, if_neg h4, Nat.add_sub_cancel_left]

/-- A byte that starts a character is of one of four kinds. -/
theorem lead?_cases {b : Nat} {l : Lead} (h : lead? b = some l) :
    b < 0x80 ∨ (∃ k, b = 0xC0 + k ∧ 2 ≤ k ∧ k < 0x20) ∨ (∃ k, b = 0xE0 + k ∧ k < 0x10) ∨
      ∃ k, b = 0xF0 + k ∧ k ≤ 4 := by
  have hstart : ¬ (0x80 ≤ b ∧ b < 0xC2) := by
    rintro ⟨hlow, hhigh⟩
    rw [lead?, if_neg (by omega), if_pos hhigh] at h
    cases h
  have hend : ¬ 0xF4 < b := by
    intro hlow
    rw [lead?, if_neg (by omega), if_neg (by omega), if_neg (by omega), if_neg (by omega),
      if_neg (by omega), if_neg (by omega), if_neg (by omega), if_neg (by omega),
      if_neg (by omega)] at h
    cases h
  rcases Nat.lt_or_ge b 0x80 with h1 | h1
  · exact .inl h1
  rcases Nat.lt_or_ge b 0xE0 with h2 | h2
  · exact .inr (.inl ⟨b - 0xC0, by omega, by omega, by omega⟩)
  rcases Nat.lt_or_ge b 0xF0 with h3 | h3
  · exact .inr (.inr (.inl ⟨b - 0xE0, by omega, by omega⟩))
  · exact .inr (.inr (.inr ⟨b - 0xF0, by omega, by omega⟩))

/-! ## The bytes after the first -/

theorem readTails_zero (low high bits taken : Nat) (rest : List UInt8) :
    readTails 0 low high bits taken rest = (taken, .ok (Char.ofNat bits)) := by
  cases rest <;> rfl

theorem readTails_succ {low high : Nat} {t : UInt8} (hlow : low ≤ t.toNat) (hhigh : t.toNat ≤ high)
    (tails bits taken : Nat) (rest : List UInt8) :
    readTails (tails + 1) low high bits taken (t :: rest) =
      readTails tails 0x80 0xBF (bits * 0x40 + t.toNat % 0x40) (taken + 1) rest :=
  if_pos ⟨hlow, hhigh⟩

theorem readTails_succ_eq_ok {tails low high bits taken : Nat} {rest : List UInt8} {c : Char}
    (h : (readTails (tails + 1) low high bits taken rest).2 = .ok c) :
    ∃ t after, rest = t :: after ∧ low ≤ t.toNat ∧ t.toNat ≤ high ∧
      (readTails tails 0x80 0xBF (bits * 0x40 + t.toNat % 0x40) (taken + 1) after).2 = .ok c := by
  cases rest with
  | nil => cases h
  | cons t after =>
    by_cases ht : low ≤ t.toNat ∧ t.toNat ≤ high
    · rw [readTails_succ ht.1 ht.2] at h
      exact ⟨t, after, rfl, ht.1, ht.2, h⟩
    · rw [readTails, if_neg ht] at h
      cases h

theorem piece_of_readTails {b : UInt8} {tails rest : List UInt8} {k low high bits : Nat} {c : Char}
    (hl : lead? b.toNat = some ⟨k, low, high, bits⟩)
    (ht : readTails k low high bits 0 (tails ++ rest) = (tails.length, .ok c)) :
    piece b (tails ++ rest) = ⟨b :: tails, .ok c⟩ := by
  rw [piece, hl]
  dsimp only
  rw [ht, List.take_left]

/-! ## The bytes of a code point -/

/-- The bytes of a code point.  The first byte says how many there are, and each holds six bits
after it.  There is no code point that fewer bytes would do for, none of a surrogate, and none
beyond the last. -/
inductive Encodes : UInt8 → List UInt8 → Nat → Prop where
  | one {b : UInt8} (hb : b.toNat < 0x80) : Encodes b [] b.toNat
  | two {b t : UInt8} {x y : Nat} (hb : b.toNat = 0xC0 + x) (ht : t.toNat = 0x80 + y)
    (hlong : 2 ≤ x) (hx : x < 0x20) (hy : y < 0x40) : Encodes b [t] (x * 0x40 + y)
  | three {b t u : UInt8} {x y z : Nat} (hb : b.toNat = 0xE0 + x) (ht : t.toNat = 0x80 + y)
    (hu : u.toNat = 0x80 + z) (hx : x < 0x10) (hy : y < 0x40) (hz : z < 0x40)
    (hlong : x = 0 → 0x20 ≤ y) (hsurrogate : x = 0xD → y < 0x20) :
    Encodes b [t, u] ((x * 0x40 + y) * 0x40 + z)
  | four {b t u v : UInt8} {w x y z : Nat} (hb : b.toNat = 0xF0 + w) (ht : t.toNat = 0x80 + x)
    (hu : u.toNat = 0x80 + y) (hv : v.toNat = 0x80 + z) (hw : w ≤ 4) (hx : x < 0x40) (hy : y < 0x40)
    (hz : z < 0x40) (hlong : w = 0 → 0x10 ≤ x) (hlast : w = 4 → x < 0x10) :
    Encodes b [t, u, v] (((w * 0x40 + x) * 0x40 + y) * 0x40 + z)

theorem Encodes.isValidChar {b : UInt8} {tails : List UInt8} {n : Nat} (h : Encodes b tails n) :
    n.isValidChar := by
  cases h with
  | one hb => exact .inl (by omega)
  | two _ _ _ hx hy => exact .inl (by omega)
  | @three _ _ x _ _ _ _ _ hx hy hz _ hsurrogate =>
    -- the surrogates lie between the two ranges
    rcases Nat.lt_or_ge x 0xE with h | h
    · exact .inl (by omega)
    · exact .inr ⟨by omega, by omega⟩
  | four _ _ _ _ hw hx hy hz hlong hlast => exact .inr ⟨by omega, by omega⟩

theorem toNat_ofNat {n : Nat} (h : n.isValidChar) : (Char.ofNat n).toNat = n := by
  rw [Char.ofNat, dif_pos h]
  rfl

theorem toNat_toUInt8 {n : Nat} (h : n < 0x100) : n.toUInt8.toNat = n := by
  rw [Nat.toUInt8, UInt8.toNat_ofNat']
  exact Nat.mod_eq_of_lt h

theorem toUInt8_eq {n : Nat} {b : UInt8} (h : b.toNat = n) : n.toUInt8 = b := by
  subst h
  exact UInt8.ofNat_toNat

/-- Every character has bytes, and they are those that it is written with. -/
theorem exists_encodes (c : Char) :
    ∃ b tails, encodeChar c = b :: tails ∧ Encodes b tails c.toNat := by
  have hvalid : c.toNat < 0xD800 ∨ 0xDFFF < c.toNat ∧ c.toNat < 0x110000 := c.valid
  unfold encodeChar
  dsimp only
  generalize c.toNat = n at hvalid
  split
  · next h =>
    have hb : n.toUInt8.toNat = n := toNat_toUInt8 (by omega)
    have hread : Encodes n.toUInt8 [] n.toUInt8.toNat := .one (by omega)
    rw [hb] at hread
    exact ⟨_, _, rfl, hread⟩
  split
  · next h =>
    have hn : n / 0x40 * 0x40 + n % 0x40 = n := by omega
    have hread := Encodes.two (x := n / 0x40) (y := n % 0x40) (toNat_toUInt8 (by omega))
      (toNat_toUInt8 (by omega)) (by omega) (by omega) (by omega)
    rw [hn] at hread
    exact ⟨_, _, rfl, hread⟩
  split
  · next h =>
    have hn : (n / 0x1000 * 0x40 + n / 0x40 % 0x40) * 0x40 + n % 0x40 = n := by omega
    have hread := Encodes.three (x := n / 0x1000) (y := n / 0x40 % 0x40) (z := n % 0x40)
      (toNat_toUInt8 (by omega)) (toNat_toUInt8 (by omega)) (toNat_toUInt8 (by omega)) (by omega)
      (by omega) (by omega) (by omega) (by omega)
    rw [hn] at hread
    exact ⟨_, _, rfl, hread⟩
  · have hn : ((n / 0x40000 * 0x40 + n / 0x1000 % 0x40) * 0x40 + n / 0x40 % 0x40) * 0x40 +
        n % 0x40 = n := by omega
    have hread := Encodes.four (w := n / 0x40000) (x := n / 0x1000 % 0x40) (y := n / 0x40 % 0x40)
      (z := n % 0x40) (toNat_toUInt8 (by omega)) (toNat_toUInt8 (by omega))
      (toNat_toUInt8 (by omega)) (toNat_toUInt8 (by omega)) (by omega) (by omega) (by omega)
      (by omega) (by omega) (by omega)
    rw [hn] at hread
    exact ⟨_, _, rfl, hread⟩

theorem mul_add_div {a d : Nat} (hd : d < 0x40) : (a * 0x40 + d) / 0x40 = a := by
  omega

theorem mul_add_mod {a d : Nat} (hd : d < 0x40) : (a * 0x40 + d) % 0x40 = d := by
  omega

theorem div_square (n : Nat) : n / 0x1000 = n / 0x40 / 0x40 :=
  (Nat.div_div_eq_div_mul n 0x40 0x40).symm

theorem div_cube (n : Nat) : n / 0x40000 = n / 0x40 / 0x40 / 0x40 := by
  rw [← div_square, Nat.div_div_eq_div_mul]

theorem Encodes.encodeChar_eq {b : UInt8} {tails : List UInt8} {n : Nat} (h : Encodes b tails n) :
    encodeChar (Char.ofNat n) = b :: tails := by
  rw [encodeChar, toNat_ofNat h.isValidChar]
  cases h with
  | one hb => rw [if_pos hb, toUInt8_eq rfl]
  | two hb ht hlong hx hy =>
    rw [if_neg (by omega), if_pos (by omega), mul_add_div hy, mul_add_mod hy, toUInt8_eq hb,
      toUInt8_eq ht]
  | three hb ht hu hx hy hz hlong _ =>
    rw [if_neg (by omega), if_neg (by omega), if_pos (by omega), div_square, mul_add_div hz,
      mul_add_div hy, mul_add_mod hy, mul_add_mod hz, toUInt8_eq hb, toUInt8_eq ht, toUInt8_eq hu]
  | four hb ht hu hv hw hx hy hz hlong _ =>
    rw [if_neg (by omega), if_neg (by omega), if_neg (by omega), div_cube, div_square,
      mul_add_div hz, mul_add_div hy, mul_add_div hx, mul_add_mod hx, mul_add_mod hy,
      mul_add_mod hz, toUInt8_eq hb, toUInt8_eq ht, toUInt8_eq hu, toUInt8_eq hv]

/-! ## Pieces -/

/-- The bytes of a code point are one piece, whatever follows them. -/
theorem Encodes.piece_eq {b : UInt8} {tails : List UInt8} {n : Nat} (h : Encodes b tails n)
    (rest : List UInt8) : piece b (tails ++ rest) = ⟨b :: tails, .ok (Char.ofNat n)⟩ := by
  cases h with
  | one hb =>
    refine piece_of_readTails (lead?_one hb) ?_
    rw [readTails_zero]
    rfl
  | @two t x y hb ht hlong hx hy =>
    refine piece_of_readTails (hb ▸ lead?_two hlong hx) ?_
    have hy' : t.toNat % 0x40 = y := by omega
    rw [List.cons_append, readTails_succ (by omega) (by omega), readTails_zero, hy']
    rfl
  | @three t u x y z hb ht hu hx hy hz hlong hsurrogate =>
    refine piece_of_readTails (hb ▸ lead?_three hx) ?_
    have hy' : t.toNat % 0x40 = y := by omega
    have hz' : u.toNat % 0x40 = z := by omega
    rw [List.cons_append, readTails_succ (by split <;> omega) (by split <;> omega),
      List.cons_append, readTails_succ (by omega) (by omega), readTails_zero, hy', hz']
    rfl
  | @four t u v w x y z hb ht hu hv hw hx hy hz hlong hlast =>
    refine piece_of_readTails (hb ▸ lead?_four hw) ?_
    have hx' : t.toNat % 0x40 = x := by omega
    have hy' : u.toNat % 0x40 = y := by omega
    have hz' : v.toNat % 0x40 = z := by omega
    rw [List.cons_append, readTails_succ (by split <;> omega) (by split <;> omega),
      List.cons_append, readTails_succ (by omega) (by omega), List.cons_append,
      readTails_succ (by omega) (by omega), readTails_zero, hx', hy', hz']
    rfl

/-- A piece that is a character starts with the bytes of a code point. -/
theorem encodes_of_piece {b : UInt8} {rest : List UInt8} {c : Char}
    (h : (piece b rest).meaning = .ok c) :
    ∃ tails after n, rest = tails ++ after ∧ Encodes b tails n := by
  cases hl : lead? b.toNat with
  | none =>
    rw [piece, hl] at h
    cases h
  | some l =>
    rw [piece, hl] at h
    change (readTails l.tails l.low l.high l.bits 0 rest).2 = .ok c at h
    rcases lead?_cases hl with hb | ⟨k, hb, hlow, hhigh⟩ | ⟨k, hb, hk⟩ | ⟨k, hb, hk⟩
    · exact ⟨[], rest, _, rfl, .one hb⟩
    · rw [hb, lead?_two hlow hhigh] at hl
      cases hl
      obtain ⟨t, after, rfl, htl, hth, -⟩ := readTails_succ_eq_ok h
      dsimp only at htl hth
      exact ⟨[t], after, _, rfl,
        .two (y := t.toNat - 0x80) hb (by omega) hlow hhigh (by omega)⟩
    · rw [hb, lead?_three hk] at hl
      cases hl
      obtain ⟨t, after, rfl, htl, hth, h⟩ := readTails_succ_eq_ok h
      obtain ⟨u, after, rfl, hul, huh, -⟩ := readTails_succ_eq_ok h
      dsimp only at htl hth
      refine ⟨[t, u], after, _, rfl, .three (y := t.toNat - 0x80) (z := u.toNat - 0x80) hb ?_
        (by omega) hk ?_ (by omega) ?_ ?_⟩
      · split at htl <;> omega
      · split at hth <;> omega
      · intro h0
        rw [if_pos h0] at htl
        omega
      · intro hD
        rw [if_pos hD] at hth
        omega
    · rw [hb, lead?_four hk] at hl
      cases hl
      obtain ⟨t, after, rfl, htl, hth, h⟩ := readTails_succ_eq_ok h
      obtain ⟨u, after, rfl, hul, huh, h⟩ := readTails_succ_eq_ok h
      obtain ⟨v, after, rfl, hvl, hvh, -⟩ := readTails_succ_eq_ok h
      dsimp only at htl hth
      refine ⟨[t, u, v], after, _, rfl, .four (x := t.toNat - 0x80) (y := u.toNat - 0x80)
        (z := v.toNat - 0x80) hb ?_ (by omega) (by omega) hk ?_ (by omega) (by omega) ?_ ?_⟩
      · split at htl <;> omega
      · split at hth <;> omega
      · intro h0
        rw [if_pos h0] at htl
        omega
      · intro h4
        rw [if_pos h4] at hth
        omega

theorem bytes_of_piece {b : UInt8} {rest : List UInt8} {c : Char}
    (h : (piece b rest).meaning = .ok c) : (piece b rest).bytes = encodeChar c := by
  obtain ⟨tails, after, n, rfl, hencodes⟩ := encodes_of_piece h
  rw [hencodes.piece_eq] at h ⊢
  cases h
  exact hencodes.encodeChar_eq.symm

/-- A piece takes the bytes that it consists of, and leaves those that follow it. -/
theorem bytes_append_drop (b : UInt8) (rest : List UInt8) :
    (piece b rest).bytes ++ rest.drop ((piece b rest).bytes.length - 1) = b :: rest := by
  unfold piece
  cases lead? b.toNat with
  | none => rfl
  | some l =>
    dsimp only
    rw [List.length_cons, Nat.add_sub_cancel, List.cons_append]
    exact congrArg (b :: ·) (List.prefix_iff_eq_append.mp (List.take_prefix _ rest))

/-- Nothing of the bytes is lost in their pieces. -/
theorem flatMap_bytes_pieces (bytes : List UInt8) : (pieces bytes).flatMap Piece.bytes = bytes := by
  fun_induction pieces bytes
  case case1 => rfl
  case case2 b rest p ih => rw [List.flatMap_cons, ih, bytes_append_drop]

theorem bytes_of_mem_pieces {bytes : List UInt8} {p : Piece} (hp : p ∈ pieces bytes) {c : Char}
    (h : p.meaning = .ok c) : p.bytes = encodeChar c := by
  fun_induction pieces bytes
  case case1 => cases hp
  case case2 b rest first ih =>
    rcases List.mem_cons.mp hp with rfl | hp
    · exact bytes_of_piece h
    · exact ih hp

/-! ## Texts -/

theorem pieces_encode (s : List Char) :
    pieces (encode s) = s.map fun c => ⟨encodeChar c, .ok c⟩ := by
  induction s with
  | nil =>
    rw [encode, List.flatMap_nil, pieces]
    rfl
  | cons c rest ih =>
    obtain ⟨b, tails, hbytes, hencodes⟩ := exists_encodes c
    have hpiece : piece b (tails ++ encode rest) = ⟨b :: tails, .ok c⟩ := by
      rw [hencodes.piece_eq, Char.ofNat_toNat]
    have hencode : encode (c :: rest) = b :: (tails ++ encode rest) := by
      rw [encode, List.flatMap_cons, hbytes]
      rfl
    have hdrop : (tails ++ encode rest).drop ((b :: tails).length - 1) = encode rest :=
      List.drop_left
    rw [hencode, pieces, hpiece, List.map_cons, hbytes, ← ih]
    dsimp only
    rw [hdrop]

theorem textOf_map (s : List Char) (position : Nat) :
    textOf position (s.map fun c => ⟨encodeChar c, .ok c⟩) = .ok s := by
  induction s generalizing position with
  | nil => rfl
  | cons c rest ih => rw [List.map_cons, textOf, ih]

theorem encode_of_textOf {position : Nat} {ps : List Piece} {s : List Char}
    (hps : ∀ p ∈ ps, ∀ c, p.meaning = .ok c → p.bytes = encodeChar c)
    (h : textOf position ps = .ok s) : encode s = ps.flatMap Piece.bytes := by
  induction ps generalizing position s with
  | nil =>
    cases h
    rfl
  | cons p rest ih =>
    rw [textOf] at h
    split at h
    · cases h
    · next c hc =>
      split at h
      · cases h
      · next t ht =>
        cases h
        have hrest := ih (fun q hq => hps q (List.mem_cons_of_mem p hq)) ht
        rw [List.flatMap_cons, hps p List.mem_cons_self c hc, ← hrest]
        rfl

/-- Bytes are decoded to a text exactly if they are its encoding. -/
theorem decode_eq_ok_iff {bytes : List UInt8} {s : List Char} :
    decode bytes = .ok s ↔ bytes = encode s := by
  constructor
  · intro h
    rw [encode_of_textOf (fun p hp c hc => bytes_of_mem_pieces hp hc) h, flatMap_bytes_pieces]
  · rintro rfl
    rw [decode, pieces_encode, textOf_map]

/-! ## The encoding of strings -/

theorem encodeChar_eq_utf8EncodeChar (c : Char) : encodeChar c = String.utf8EncodeChar c := by
  have hvalid : c.toNat < 0xD800 ∨ 0xDFFF < c.toNat ∧ c.toNat < 0x110000 := c.valid
  have hval : c.val.toNat = c.toNat := rfl
  unfold encodeChar String.utf8EncodeChar
  dsimp only
  rw [hval]
  generalize c.toNat = n at hvalid
  -- the library masks the bits of the first byte, which has no more than it needs
  split
  · rw [if_pos (by omega)]
  split
  · have hfirst : n / 64 % 0x20 = n / 64 := by omega
    rw [if_neg (by omega), if_pos (by omega), hfirst, Nat.add_comm, Nat.add_comm 0x80]
  split
  · have hfirst : n / 4096 % 0x10 = n / 4096 := by omega
    rw [if_neg (by omega), if_neg (by omega), if_pos (by omega), hfirst, Nat.add_comm,
      Nat.add_comm 0x80, Nat.add_comm 0x80]
  · have hfirst : n / 262144 % 0x08 = n / 262144 := by omega
    rw [if_neg (by omega), if_neg (by omega), if_neg (by omega), hfirst, Nat.add_comm,
      Nat.add_comm 0x80, Nat.add_comm 0x80, Nat.add_comm 0x80]

theorem toByteArray_encode (s : List Char) : (encode s).toByteArray = (String.ofList s).toUTF8 := by
  show _ = (String.ofList s).toByteArray
  rw [String.toByteArray_ofList, List.utf8Encode, encode, funext encodeChar_eq_utf8EncodeChar]

theorem decode_eq_ok_iff_toUTF8 {bytes : List UInt8} {s : List Char} :
    decode bytes = .ok s ↔ bytes.toByteArray = (String.ofList s).toUTF8 := by
  rw [decode_eq_ok_iff, ← toByteArray_encode, List.toByteArray_inj]

/-- A byte order mark is a character of the text like any other. -/
example : decode [0xEF, 0xBB, 0xBF, 0x0D, 0x0A] = .ok ['\uFEFF', '\r', '\n'] :=
  decode_eq_ok_iff.mpr (by decide)

end Utf8
end GpuInventory
