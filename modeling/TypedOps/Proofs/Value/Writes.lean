import Mathlib.Data.List.Induction
import TypedOps.Proofs.Value.Kept

/-!
Slots under writes. A value takes the writes of one class, that of its variant; references and
constants take none (`Value.slotClass?`). A write of another class is refused and changes nothing
(`write_refused`, `afterWrite_refused`), and one of the right class gives a value alike whatever was
kept before (`afterWrite_alike`, `Alike.afterWrite_eq`). Main statement: a slot stays of its kind
through any sequence of writes, and holds in the end what the last write that was not refused left
there (`slot_after_writes`).
-/
namespace TypedOps

/-- The 64 bits that an integer kind gives back of 64 bits that are written: as many low ones as the
cell of the kind has, and above them copies of the sign if the kind is signed, else zeros. -/
def IntKind.givesBack (k : IntKind) (b : BitVec 64) : BitVec 64 :=
  let low : BitVec k.cell.width.bits := b.setWidth k.cell.width.bits
  if k.signed then low.signExtend 64 else low.setWidth 64

/-- The class of writes that the slots of a kind take. -/
def Kind.slotClass? : Kind → Option WriteClass
  | .bool => some .bool
  | .integer _ | .rune => some .integer
  | .float _ => some .float
  | .complex _ => some .complex
  | .string => some .string
  | .reference _ | .untyped _ => none

namespace Value

/-- The class of writes that a value takes. -/
def slotClass? : Value → Option WriteClass
  | bool _ => some .bool
  | integer _ => some .integer
  | float _ _ => some .float
  | complex _ _ => some .complex
  | text _ => some .string
  | reference _ _ | constant _ => none

/-- Whether a value takes a write. -/
def accepts (slot : Value) (w : Write) : Bool :=
  slot.slotClass? == some w.cls

/-- The slot after writes one after another, with the refused ones passed over. -/
def afterWrites (slot : Value) (ws : List Write) : Value :=
  ws.foldl afterWrite slot

/-- The slot after the last of the writes that it takes, if it takes any. -/
def afterLast (slot : Value) (ws : List Write) : Value :=
  match (ws.filter slot.accepts).getLast? with
  | some w => slot.afterWrite w
  | none => slot

variable {slot other : Value} {w : Write}

theorem accepts_iff : slot.accepts w = true ↔ slot.slotClass? = some w.cls := by
  rw [accepts, beq_iff_eq]

/-! ## One write -/

/-- A write of the right class succeeds. -/
theorem write_accepted (accepted : slot.accepts w = true) :
    slot.write w = .ok (slot.afterWrite w) := by
  rw [accepts_iff] at accepted
  cases slot <;> cases w <;> cases accepted <;> rfl

/-- A write of another class fails, and names the kind of the slot and the class. -/
theorem write_refused (refused : slot.accepts w = false) :
    slot.write w = .error (.slotMismatch slot.kind? w.cls) := by
  unfold write
  split
  case h_6 => rfl
  all_goals cases refused

theorem afterWrite_refused (refused : slot.accepts w = false) : slot.afterWrite w = slot := by
  rw [afterWrite, write_refused refused]

/-- A write fails exactly when it is of another class. -/
theorem write_error_iff {f : InternalFault} :
    slot.write w = .error f ↔ slot.accepts w = false ∧ f = .slotMismatch slot.kind? w.cls := by
  cases accepted : slot.accepts w with
  | true => simp [write_accepted accepted]
  | false => simp [write_refused accepted, eq_comm]

/-! ## What a write keeps -/

theorem Alike.refl (v : Value) : v.Alike v := by
  cases v <;> simp [Alike]

theorem Alike.trans {u v w : Value} (first : u.Alike v) (second : v.Alike w) : u.Alike w := by
  cases u <;> cases v <;> simp only [Alike] at first <;> cases w <;> simp_all [Alike]

/-- Alike slots take the same writes. -/
theorem Alike.slotClass_eq (alike : slot.Alike other) : slot.slotClass? = other.slotClass? := by
  unfold Alike at alike
  split at alike
  case h_8 => exact alike.elim
  all_goals rfl

theorem Alike.accepts_eq (alike : slot.Alike other) : slot.accepts = other.accepts := by
  funext w
  rw [accepts, alike.slotClass_eq, accepts]

theorem Alike.exists_integer {i : StoredInt} (alike : slot.Alike (integer i)) :
    ∃ j : StoredInt, j.kind = i.kind ∧ slot = integer j := by
  cases slot with
  | integer j => exact ⟨j, alike, rfl⟩
  | _ => cases alike

/-- A write that is taken leaves nothing of what was kept before. -/
theorem Alike.afterWrite_eq (alike : slot.Alike other) (accepted : slot.accepts w = true) :
    slot.afterWrite w = other.afterWrite w := by
  rw [accepts_iff] at accepted
  unfold Alike at alike
  split at alike
  case h_8 => exact alike.elim
  all_goals cases w <;> cases accepted
  case h_2 => simp only [afterWrite, write, alike]
  all_goals
    subst_vars
    rfl

/-- A write, taken or not, leaves a value alike. -/
theorem afterWrite_alike (slot : Value) (w : Write) : (slot.afterWrite w).Alike slot := by
  cases accepted : slot.accepts w with
  | false =>
    rw [afterWrite_refused accepted]
    exact Alike.refl slot
  | true =>
    rw [accepts_iff] at accepted
    cases slot <;> cases w <;> cases accepted <;> simp [afterWrite, write, Alike, StoredInt.ofInt]

/-- Bits that are written to an integer are given back as many as its cell has. -/
theorem toBits_afterWrite (i : StoredInt) (b : BitVec 64) :
    ((integer i).afterWrite (.bits b)).toBits? = some (i.kind.givesBack b) := by
  have inside : i.kind.cell.width.bits ≤ 64 := by
    cases i.kind <;> decide
  have low : i.kind.cell.bitsOf b.toInt = b.setWidth i.kind.cell.width.bits := by
    rw [Shape.bitsOf, ← BitVec.signExtend, BitVec.signExtend_eq_setWidth_of_le _ inside]
  have kept : i.kind.cell.wrap b.toInt = i.kind.cell.ofBits (b.setWidth _) := by
    rw [← Shape.ofBits_bitsOf, low]
  show some (BitVec.ofInt 64 (i.kind.cell.wrap b.toInt)) = some _
  rw [kept, Shape.ofBits]
  by_cases signed : i.kind.signed = true
  · rw [IntKind.givesBack, if_pos signed, IntKind.cell, IntKind.shape, if_pos signed]
    rfl
  · rw [IntKind.givesBack, if_neg signed, IntKind.cell, IntKind.shape, if_neg signed,
      BitVec.ofInt_natCast, BitVec.ofNat_toNat]

/-! ## Sequences of writes -/

theorem afterWrites_concat (slot : Value) (ws : List Write) (w : Write) :
    slot.afterWrites (ws ++ [w]) = (slot.afterWrites ws).afterWrite w := by
  simp only [afterWrites, List.foldl_append, List.foldl_cons, List.foldl_nil]

theorem afterWrites_alike (slot : Value) (ws : List Write) : (slot.afterWrites ws).Alike slot := by
  induction ws using List.reverseRecOn with
  | nil => exact Alike.refl slot
  | append_singleton ws w ih =>
    rw [afterWrites_concat]
    exact (afterWrite_alike _ w).trans ih

theorem afterLast_concat (slot : Value) (ws : List Write) (w : Write) :
    slot.afterLast (ws ++ [w]) =
      if slot.accepts w then slot.afterWrite w else slot.afterLast ws := by
  cases accepted : slot.accepts w <;> simp [afterLast, List.filter_append, accepted]

/-- Only the last write that is taken counts. -/
theorem afterWrites_eq_afterLast (slot : Value) (ws : List Write) :
    slot.afterWrites ws = slot.afterLast ws := by
  induction ws using List.reverseRecOn with
  | nil => rfl
  | append_singleton ws w ih =>
    have alike := afterWrites_alike slot ws
    rw [afterWrites_concat, afterLast_concat]
    cases accepted : slot.accepts w with
    | true =>
      rw [if_pos rfl]
      exact alike.afterWrite_eq ((congrFun alike.accepts_eq w).trans accepted)
    | false =>
      rw [if_neg Bool.false_ne_true, ← ih]
      exact afterWrite_refused ((congrFun alike.accepts_eq w).trans accepted)

/-- What was kept before the last write that is taken does not count either. -/
theorem Alike.afterLast_eq {ws : List Write} (alike : other.Alike slot) (member : w ∈ ws)
    (accepted : slot.accepts w = true) : other.afterLast ws = slot.afterLast ws := by
  have taken : w ∈ ws.filter slot.accepts := List.mem_filter.mpr ⟨member, accepted⟩
  simp only [afterLast, alike.accepts_eq]
  cases last : (ws.filter slot.accepts).getLast? with
  | none =>
    rw [List.getLast?_eq_none_iff.mp last] at taken
    cases taken
  | some v =>
    have accepts : slot.accepts v = true := (List.mem_filter.mp (List.mem_of_getLast? last)).2
    exact alike.afterWrite_eq ((congrFun alike.accepts_eq v).trans accepts)

/-! ## Main statement -/

/-- A fresh slot is of the kind's storage and takes the writes that the kind says. -/
theorem allocate_slot {kind : Kind} (fresh : allocate kind = .ok slot) :
    slot.kind? = some kind.storage ∧ slot.slotClass? = kind.slotClass? := by
  cases kind <;> cases fresh <;> exact ⟨rfl, rfl⟩

/-- A slot through any sequence of writes. Its kind and the class of writes that it takes stay what
they were, for a fresh slot what the kind says. At any point a write fails exactly when it is not of
that class, and then changes nothing. What is kept in the end is what the last write that was taken
leaves in the slot, whatever had been kept there before. Bits that are written to an integer are
read back as many as the integer's cell has, extended by its signedness. -/
theorem slot_after_writes (slot : Value) (ws : List Write) :
    let after := slot.afterWrites ws
    (∀ kind, allocate kind = .ok slot →
      after.kind? = some kind.storage ∧ after.slotClass? = kind.slotClass?) ∧
    after.kind? = slot.kind? ∧ after.slotClass? = slot.slotClass? ∧
    (∀ w f, after.write w = .error f ↔
      slot.slotClass? ≠ some w.cls ∧ f = .slotMismatch slot.kind? w.cls) ∧
    (∀ w f, after.write w = .error f → after.afterWrite w = after) ∧
    after = slot.afterLast ws ∧
    (∀ other : Value, other.Alike slot → (∃ w ∈ ws, slot.slotClass? = some w.cls) →
      other.afterWrites ws = after) ∧
    ∀ i b, slot = .integer i →
      (after.afterWrite (.bits b)).toBits? = some (i.kind.givesBack b) := by
  intro after
  have alike : after.Alike slot := afterWrites_alike slot ws
  have sameKind : after.kind? = slot.kind? := alike.kind_eq
  have sameClass : after.slotClass? = slot.slotClass? := alike.slotClass_eq
  have refused (w : Write) : after.accepts w = false ↔ slot.slotClass? ≠ some w.cls := by
    rw [accepts, sameClass, beq_eq_false_iff_ne]
  refine ⟨?fresh, sameKind, sameClass, ?fails, ?unchanged, afterWrites_eq_afterLast slot ws, ?last,
    ?bits⟩
  case fresh =>
    intro kind allocated
    rw [sameKind, sameClass]
    exact allocate_slot allocated
  case fails =>
    intro w f
    rw [write_error_iff, refused, sameKind]
  case unchanged =>
    intro w f fails
    exact afterWrite_refused (write_error_iff.mp fails).1
  case last =>
    rintro other otherAlike ⟨w, member, same⟩
    rw [afterWrites_eq_afterLast other]
    exact (otherAlike.afterLast_eq member (accepts_iff.mpr same)).trans
      (afterWrites_eq_afterLast slot ws).symm
  case bits =>
    rintro i b rfl
    obtain ⟨j, keptAs, kept⟩ := alike.exists_integer
    rw [kept, toBits_afterWrite, keptAs]

/-- A fresh slot of eight signed bits under writes of all sorts: it keeps the low bits that were
written last, as does a slot that held something else, and refuses a text. -/
theorem slot_after_writes_int8 :
    let slot : Value := .integer (.ofInt .int8 0)
    let other : Value := .integer (.ofInt .int8 9)
    let ws : List Write := [.bits 130, .text "go", .bits 0x3ff, .bool true]
    let kept : Value := .integer (.ofInt .int8 (-1))
    allocate (.integer .int8) = .ok slot ∧ other.Alike slot ∧ slot.afterWrites ws = kept ∧
      kept.kind? = some (.integer .int8) ∧
      kept.write (.text "go") = .error (.slotMismatch (some (.integer .int8)) .string) ∧
      kept.afterWrite (.text "go") = kept ∧ other.afterWrites ws = kept ∧
      (kept.afterWrite (.bits 0x180)).toBits? = some 0xffffffffffffff80#64 := by
  intro slot other ws kept
  have fresh : allocate (.integer .int8) = .ok slot := rfl
  have left : slot.afterWrites ws = kept := by decide
  obtain ⟨kind, _, _, fails, unchanged, _, last, bits⟩ := slot_after_writes slot ws
  rw [left] at kind fails unchanged last bits
  have refused := (fails (.text "go") (.slotMismatch (some (.integer .int8)) .string)).mpr
    ⟨nofun, rfl⟩
  refine ⟨fresh, rfl, left, (kind _ fresh).1, refused, unchanged _ _ refused, ?_, ?_⟩
  · exact last other rfl ⟨.bits 130, by simp [ws], rfl⟩
  · exact bits _ 0x180 rfl

end Value

end TypedOps
