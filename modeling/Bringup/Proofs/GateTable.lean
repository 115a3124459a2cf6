import Mathlib.Data.Nat.Bitwise
import Bringup.Proofs.WordBytes

/-!
# The gate table as the processor reads it

The processor sees a gate table as raw bytes, sixteen for each vector. Read back by the places of
the parts, the bytes of a gate give its fields and the address that `Gate.handler` puts together
(`view_bytes`), and a table made of handlers leads every vector to its own, with nothing of any
address lost (`GateTable.views_of_handlers`).
-/

namespace Bringup

/-! ## One gate -/

namespace Gate

theorem length_bytes (g : Gate) : g.bytes.length = byteSize := rfl

/-- The parts of the address stand one above the other. -/
theorem toNat_handler (g : Gate) :
    g.handler.toNat =
      g.offsetLow.toNat + 2 ^ 16 * (g.offsetMiddle.toNat + 2 ^ 16 * g.offsetHigh.toNat) := by
  have low := g.offsetLow.toNat_lt
  have middle := g.offsetMiddle.toNat_lt
  have high := g.offsetHigh.toNat_lt
  have shiftedHigh : (g.offsetHigh.toUInt64 <<< 32).toNat = 2 ^ 32 * g.offsetHigh.toNat := by
    rw [UInt64.toNat_shiftLeft, UInt32.toNat_toUInt64, Nat.shiftLeft_eq]
    show g.offsetHigh.toNat * 2 ^ 32 % 2 ^ 64 = _
    omega
  have shiftedMiddle : (g.offsetMiddle.toUInt64 <<< 16).toNat = 2 ^ 16 * g.offsetMiddle.toNat := by
    rw [UInt64.toNat_shiftLeft, UInt16.toNat_toUInt64, Nat.shiftLeft_eq]
    show g.offsetMiddle.toNat * 2 ^ 16 % 2 ^ 64 = _
    omega
  -- no two parts share a bit, so to put them together is to add them
  have upper : 2 ^ 32 * g.offsetHigh.toNat ||| 2 ^ 16 * g.offsetMiddle.toNat =
      2 ^ 16 * (g.offsetMiddle.toNat + 2 ^ 16 * g.offsetHigh.toNat) := by
    rw [← Nat.two_pow_add_eq_or_of_lt (by omega)]
    omega
  rw [handler, UInt64.toNat_or, UInt64.toNat_or, shiftedHigh, shiftedMiddle,
    UInt16.toNat_toUInt64, upper, ← Nat.two_pow_add_eq_or_of_lt low, Nat.add_comm]

/-- The processor reads the fields of a gate from its bytes. -/
theorem view_bytes (g : Gate) :
    GateView.ofBytes g.bytes =
      ⟨g.handler.toNat, g.selector.toNat, g.ist, g.attributes, g.reserved.toNat⟩ := by
  have handler :
      littleEndianNat (bytesAt g.bytes [0, 1, 6, 7, 8, 9, 10, 11]) = g.handler.toNat := by
    -- the places of the address pick out the bytes of its three parts, lowest part first
    show littleEndianNat (LittleEndian.bytesOf16 g.offsetLow ++
      (LittleEndian.bytesOf16 g.offsetMiddle ++ LittleEndian.bytesOf32 g.offsetHigh)) = _
    have two : ∀ w, (LittleEndian.bytesOf16 w).length = 2 := fun _ => rfl
    have places : 256 ^ 2 = 2 ^ 16 := rfl
    rw [littleEndianNat_append, littleEndianNat_append, littleEndianNat_bytesOf16,
      littleEndianNat_bytesOf16, littleEndianNat_bytesOf32, toNat_handler, two, two,
      places]
  have selector : littleEndianNat (bytesAt g.bytes [2, 3]) = g.selector.toNat :=
    littleEndianNat_bytesOf16 g.selector
  have reserved : littleEndianNat (bytesAt g.bytes [12, 13, 14, 15]) = g.reserved.toNat :=
    littleEndianNat_bytesOf32 g.reserved
  rw [GateView.ofBytes, handler, selector, reserved]
  rfl

/-- Nothing that a gate is made of is lost in its bytes but the high bits of the stack number. -/
theorem view_make (handler : UInt64) (ist attributes : UInt8) :
    GateView.ofBytes (make handler ist attributes).bytes =
      ⟨handler.toNat, Selector.kernelCode.toNat, ist &&& 7, attributes, 0⟩ := by
  rw [view_bytes, handler_make]
  rfl

/-- Gates one after the other take as many bytes as each of them. -/
theorem length_flatMap_bytes (gates : List Gate) :
    (gates.flatMap bytes).length = byteSize * gates.length := by
  induction gates with
  | nil => rfl
  | cons g gates ih =>
      rw [List.flatMap_cons, List.length_append, ih, g.length_bytes, List.length_cons,
        Nat.mul_succ, Nat.add_comm]

/-- Gates one after the other do not reach into one another. -/
theorem take_drop_flatMap_bytes (gates : List Gate) :
    ∀ (i : Nat) (inside : i < gates.length),
      ((gates.flatMap bytes).drop (byteSize * i)).take byteSize = gates[i].bytes := by
  induction gates with
  | nil => exact fun i inside => absurd inside (Nat.not_lt_zero i)
  | cons g gates ih =>
      intro i inside
      rw [List.flatMap_cons]
      cases i with
      | zero => exact List.take_left' g.length_bytes
      | succ i =>
          -- the first gate is exactly as long as one step of the offset
          have past : byteSize * (i + 1) = g.bytes.length + byteSize * i := by
            rw [g.length_bytes, Nat.mul_succ, Nat.add_comm]
          rw [past, List.drop_length_add_append, List.getElem_cons_succ]
          exact ih i (Nat.lt_of_succ_lt_succ inside)

end Gate

/-! ## The table -/

namespace GateTable

/-- The bytes of a table, gate after gate. -/
def bytes (t : GateTable) : List UInt8 :=
  t.toList.flatMap Gate.bytes

/-- The sixteen bytes of a table that belong to a vector. -/
def bytesOfGate (t : GateTable) (v : Fin 256) : List UInt8 :=
  (t.bytes.drop (Gate.byteSize * v)).take Gate.byteSize

theorem length_bytes (t : GateTable) : t.bytes.length = Gate.byteSize * vectorCount := by
  rw [bytes, Gate.length_flatMap_bytes, Vector.length_toList, vectorCount]

theorem bytesOfGate_eq (t : GateTable) (v : Fin 256) : t.bytesOfGate v = (t.get v).bytes := by
  have inside : v.val < t.toList.length := by
    rw [Vector.length_toList]
    exact v.isLt
  rw [bytesOfGate, bytes, Gate.take_drop_flatMap_bytes t.toList v inside, Vector.getElem_toList]
  rfl

/-- **Nothing is lost in a gate table.** For every array of handlers, the sixteen bytes of each
vector, read by the places that the processor knows, give that vector's handler, the kernel's code
segment, no separate stack and the attributes of an exception below vector 32 and of an interrupt
from there on. The same bytes of any single gate give all that it was made of, and the address is
put together again whatever the stack number and the attributes. -/
theorem views_of_handlers (handlers : Vector UInt64 256) :
    (ofHandlers handlers).bytes.length = 4096 ∧
      (∀ v : Fin 256,
        GateView.ofBytes ((ofHandlers handlers).bytesOfGate v) =
          { handler := (handlers.get v).toNat
            selector := Selector.kernelCode.toNat
            ist := 0
            attributes :=
              if v.val < 32 then GateFlag.kernelTrap else GateFlag.kernelInterrupt
            reserved := 0 } ∧
        ((ofHandlers handlers).get v).handler = handlers.get v) ∧
      ∀ handler ist attributes,
        GateView.ofBytes (Gate.make handler ist attributes).bytes =
          ⟨handler.toNat, Selector.kernelCode.toNat, ist &&& 7, attributes, 0⟩ ∧
        (Gate.make handler ist attributes).handler = handler := by
  have gate : ∀ v : Fin 256, (ofHandlers handlers).get v = Gate.make (handlers.get v) 0
      (if v.val < exceptionCount then GateFlag.kernelTrap else GateFlag.kernelInterrupt) := by
    intro v
    exact Vector.getElem_ofFn _
  refine ⟨(ofHandlers handlers).length_bytes, ?_, ?_⟩
  · intro v
    rw [bytesOfGate_eq, gate, Gate.view_make, Gate.handler_make]
    exact ⟨rfl, rfl⟩
  · exact fun handler ist attributes =>
      ⟨Gate.view_make handler ist attributes, Gate.handler_make handler ist attributes⟩

/-- A trap gate, byte by byte. -/
example :
    (Gate.make 0x1122334455667788 0 GateFlag.kernelTrap).bytes =
      [0x88, 0x77, 0x08, 0x00, 0x00, 0x8f, 0x66, 0x55, 0x44, 0x33, 0x22, 0x11, 0, 0, 0, 0] := by
  decide

/-- An interrupt gate with a stack number of which three bits count. -/
example :
    (Gate.make 0xffffffff80001000 0x0a GateFlag.kernelInterrupt).bytes =
      [0x00, 0x10, 0x08, 0x00, 0x02, 0x8e, 0x00, 0x80, 0xff, 0xff, 0xff, 0xff, 0, 0, 0, 0] := by
  decide

end GateTable

end Bringup
