/-!
How much was read of a document, and how much its references stand for, in bytes of UTF-8.

An entity may refer to others, so a short document can stand for a very long text.  As soon as what
was read, the document up to here and all replacement texts together, reaches a threshold, it may be
at most a hundred times what was read of the document.  Main statement: `Volume.isBorne_iff`, which
says this of `Volume.isBorne`, the test that looks at the rest of the document only if it has to.

The reading of replacement texts has to end, so no more than a bound is read of them.  The bound is
past what any document of the same size is allowed.
-/

namespace GpuInventory
namespace Xml

/-- The size of a text in bytes, on top of `size`. -/
def addSize (size : Nat) : List Char → Nat
  | [] => size
  | c :: s => addSize (size + c.utf8Size) s

def byteSize (s : List Char) : Nat :=
  addSize 0 s

theorem le_addSize (size : Nat) (s : List Char) : size ≤ addSize size s := by
  induction s generalizing size with
  | nil => exact Nat.le_refl _
  | cons c s ih => exact Nat.le_trans (Nat.le_add_right _ _) (ih (size + c.utf8Size))

theorem byteSize_pos {s : List Char} (h : s ≠ []) : 0 < byteSize s := by
  cases s with
  | nil => exact absurd rfl h
  | cons c s =>
    have := le_addSize (0 + c.utf8Size) s
    have := c.utf8Size_pos
    show 0 < addSize (0 + c.utf8Size) s
    omega

/-- How much was read so far. -/
structure Volume where
  /-- The size of the whole document. -/
  total : Nat
  /-- What of the document is still to be read. -/
  unread : List Char
  /-- The size of the parts of the document that were read twice. -/
  reread : Nat := 0
  /-- The size of the replacement texts that were read. -/
  replaced : Nat := 0
deriving DecidableEq, Repr

namespace Volume

def start (document : List Char) : Volume :=
  { total := byteSize document, unread := document }

/-- What has to be read for the ratio to matter. -/
def threshold : Nat := 8388608

/-- How much was read of the document itself. -/
def direct (v : Volume) : Nat :=
  v.total - byteSize v.unread + v.reread

/-- Whether replacement texts are in proportion to the document. -/
def isBorne (v : Volume) : Bool :=
  v.replaced == 0 || v.replaced + (v.total + v.reread) < threshold ||
    (v.replaced + v.direct < threshold || v.replaced ≤ 99 * v.direct)

/-- The most that is ever read of replacement texts. -/
def bound (v : Volume) : Nat :=
  threshold + 200 * v.total

/-- How much may be read of replacement texts before the bound is reached. -/
def left (v : Volume) : Nat :=
  v.bound - v.replaced

def upTo (v : Volume) (rest : List Char) : Volume :=
  { v with unread := rest }

def replace? (v : Volume) (text : List Char) : Option Volume :=
  let w := { v with replaced := v.replaced + byteSize text }
  if w.replaced ≤ w.bound ∧ w.isBorne then some w else none

/-- The volume with a character that has a name in every document. -/
def addNamed (v : Volume) : Volume :=
  { v with replaced := v.replaced + 1 }

/-- The volume with a text that is read once more, within the document or within a replacement
text. -/
def revisit? (v : Volume) (within : Bool) (text : List Char) : Option Volume :=
  if within then v.replace? text else some { v with reread := v.reread + byteSize text }

/-- Replacement texts are in proportion if there are none, if all that was read is short of the
threshold, or if it is at most a hundred times what was read of the document. -/
theorem isBorne_iff {v : Volume} :
    v.isBorne = true ↔ v.replaced = 0 ∨ v.replaced + v.direct < threshold ∨
      v.replaced + v.direct ≤ 100 * v.direct := by
  have hd : v.direct ≤ v.total + v.reread := by
    unfold direct
    omega
  simp only [isBorne, Bool.or_eq_true, beq_iff_eq, decide_eq_true_eq]
  omega

/-- What one volume may have become: the same document, with at least as much replaced. -/
def Follows (v w : Volume) : Prop :=
  w.total = v.total ∧ v.replaced ≤ w.replaced

theorem Follows.refl (v : Volume) : v.Follows v :=
  ⟨rfl, Nat.le_refl _⟩

theorem Follows.trans {u v w : Volume} (h : u.Follows v) (h' : v.Follows w) : u.Follows w :=
  ⟨h'.1.trans h.1, Nat.le_trans h.2 h'.2⟩

theorem Follows.left_le {v w : Volume} (h : v.Follows w) : w.left ≤ v.left := by
  obtain ⟨ht, hr⟩ := h
  unfold left bound
  rw [ht]
  omega

/-- A reader that goes on with what one volume has become, and with less to read, ends. -/
theorem lex_of_follows {v w : Volume} {m n : Nat} (h : v.Follows w) (hlt : n < m) :
    Prod.Lex (· < ·) (· < ·) (w.left, n) (v.left, m) := by
  rcases Nat.lt_or_eq_of_le h.left_le with hl | hl
  · exact Prod.Lex.left _ _ hl
  · rw [hl]
    exact Prod.Lex.right _ hlt

theorem follows_addNamed (v : Volume) : v.Follows v.addNamed :=
  ⟨rfl, Nat.le_succ _⟩

theorem follows_upTo (v : Volume) (rest : List Char) : v.Follows (v.upTo rest) :=
  ⟨rfl, Nat.le_refl _⟩

theorem follows_replace? {v w : Volume} {text : List Char} (h : v.replace? text = some w) :
    v.Follows w := by
  simp only [replace?] at h
  split at h
  · obtain rfl := Option.some.inj h
    exact ⟨rfl, Nat.le_add_right _ _⟩
  · exact absurd h (by simp)

/-- A replacement text that is not empty brings the bound nearer. -/
theorem left_replace?_lt {v w : Volume} {text : List Char} (h : v.replace? text = some w)
    (hne : text ≠ []) : w.left < v.left := by
  have hpos := byteSize_pos hne
  simp only [replace?] at h
  split at h
  · next hle =>
    obtain rfl := Option.some.inj h
    have := hle.1
    simp only [left, bound] at this ⊢
    omega
  · exact absurd h (by simp)

theorem follows_revisit? {v w : Volume} {within : Bool} {text : List Char}
    (h : v.revisit? within text = some w) : v.Follows w := by
  unfold revisit? at h
  split at h
  · exact follows_replace? h
  · obtain rfl := Option.some.inj h
    exact ⟨rfl, Nat.le_refl _⟩

end Volume
end Xml
end GpuInventory
