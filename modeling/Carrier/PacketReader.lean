import Carrier.ByteReader

/-! Reading a fixed number of bytes from anything with a `Read`, and the source that
`io.Reader` allows in general: the bytes come in packets, some of them perhaps empty, a
packet that does not fit is handed out piece by piece, and the end is reported with the
last bytes or by a read of its own. A run of reads without an error is that of the packets
it returns. -/
namespace Carrier.PacketReader

open GoRuntime ByteReader

/-- `turns` bounds the number of reads a loop makes. -/
structure Reader (σ : Type) where
  read : σ → Nat → Bytes × Bool × σ
  turns : σ → Nat → Nat

namespace Reader

variable {σ : Type} (reader : Reader σ)

/-- The loop `for total < want && err == nil`. -/
def fill : Nat → Nat → σ → Bytes × Bool × σ
  | 0, want, source => ([], want ≠ 0, source)
  | fuel + 1, want, source =>
      if want = 0 then ([], false, source)
      else
        let (chunk, failed, next) := reader.read source want
        if failed then (chunk, true, next)
        else
          let (more, failed, last) := fill fuel (want - chunk.length) next
          (chunk ++ more, failed, last)

theorem fill_failed {source next : σ} {want : Nat} {chunk : Bytes} (fuel : Nat) (some : want ≠ 0)
    (read : reader.read source want = (chunk, true, next)) :
    reader.fill (fuel + 1) want source = (chunk, true, next) := by
  simp only [fill, if_neg some, read, if_true]

theorem fill_more {source next last : σ} {want fuel : Nat} {chunk more : Bytes} {failed : Bool} (some : want ≠ 0)
    (read : reader.read source want = (chunk, false, next))
    (rest : reader.fill fuel (want - chunk.length) next = (more, failed, last)) :
    reader.fill (fuel + 1) want source = (chunk ++ more, failed, last) := by
  simp only [fill, if_neg some, read, Bool.false_eq_true, if_false, rest]

def readLoop (source : σ) (want : Nat) : Option Bytes × σ :=
  let (bytes, failed, next) := reader.fill (reader.turns source want) want source
  (if failed then none else some bytes, next)

/-- `io.ReadFull`: an error is dropped when the buffer is full. -/
def readFull (source : σ) (want : Nat) : Option Bytes × σ :=
  let (bytes, _, next) := reader.fill (reader.turns source want) want source
  (if bytes.length < want then none else some bytes, next)

end Reader

/-! The sources that always make progress are readers. -/

def sources : Reader Source := { read := Source.read, turns := fun _ want => want }

theorem sources_fill (fuel want : Nat) (source : Source) :
    sources.fill fuel want source = Source.fill fuel want source := by
  induction fuel generalizing want source with
  | zero => rfl
  | succ fuel ih =>
      simp only [Reader.fill, Source.fill, ih]
      rfl

theorem sources_readLoop (source : Source) (want : Nat) : sources.readLoop source want = source.readLoop want := by
  simp only [Reader.readLoop, Source.readLoop, sources_fill]
  rfl

theorem sources_readFull (source : Source) (want : Nat) : sources.readFull source want = source.readFull want := by
  simp only [Reader.readFull, Source.readFull, sources_fill]
  rfl

/-! Packets. -/

/-- The packets to come, with the end reported beside the last byte if `eager`. -/
structure Delivery where
  packets : List Bytes
  eager : Bool
  deriving DecidableEq, Repr

namespace Delivery

def bytes (delivery : Delivery) : Bytes := delivery.packets.flatten

def read (delivery : Delivery) (want : Nat) : Bytes × Bool × Delivery :=
  match delivery.packets with
  | [] => ([], true, delivery)
  | packet :: more =>
      let left := if packet.length ≤ want then more else packet.drop want :: more
      (packet.take want, delivery.eager && left.flatten.isEmpty, { delivery with packets := left })

theorem read_spec {delivery : Delivery} {want : Nat} (positive : 0 < want) (some : delivery.bytes ≠ []) :
    ∃ chunk next, delivery.read want = (chunk, delivery.eager && next.bytes.isEmpty, next) ∧
      delivery.bytes = chunk ++ next.bytes ∧ chunk.length ≤ want ∧ next.eager = delivery.eager ∧
      want - chunk.length + next.packets.length < want + delivery.packets.length := by
  obtain ⟨packets, eager⟩ := delivery
  cases packets with
  | nil => exact absurd rfl some
  | cons packet more =>
      by_cases fits : packet.length ≤ want
      · refine ⟨packet, ⟨more, eager⟩, ?_, rfl, fits, rfl, ?_⟩
        · simp only [read, if_pos fits, List.take_of_length_le fits]
          rfl
        · simp only [List.length_cons]
          omega
      · have length : (packet.take want).length = want := by
          rw [List.length_take]
          omega
        refine ⟨packet.take want, ⟨packet.drop want :: more, eager⟩, ?_, ?_, ?_, rfl, ?_⟩
        · simp only [read, if_neg fits]
          rfl
        · simp [bytes, ← List.append_assoc]
        · exact Nat.le_of_eq length
        · simp only [List.length_cons, length]
          omega

end Delivery

def deliveries : Reader Delivery :=
  { read := Delivery.read, turns := fun delivery want => want + delivery.packets.length }

/-- The loop collects the next bytes, however they come. There is an error beside them
exactly if they are the last ones and the end is reported with them. -/
theorem deliveries_fill (fuel want : Nat) (delivery : Delivery)
    (turns : want + delivery.packets.length ≤ fuel) (enough : want ≤ delivery.bytes.length) :
    ∃ next, deliveries.fill fuel want delivery =
        (delivery.bytes.take want, want ≠ 0 && (delivery.eager && next.bytes.isEmpty), next) ∧
      next.bytes = delivery.bytes.drop want ∧ next.eager = delivery.eager := by
  induction fuel generalizing want delivery with
  | zero =>
      have nothing : want = 0 := by omega
      subst nothing
      exact ⟨delivery, by simp [Reader.fill], by simp, rfl⟩
  | succ fuel ih =>
      by_cases nothing : want = 0
      · subst nothing
        exact ⟨delivery, by simp [Reader.fill], by simp, rfl⟩
      · have left : delivery.bytes ≠ [] := by
          intro empty
          rw [empty, List.length_nil] at enough
          omega
        obtain ⟨chunk, next, read, split, bounded, same, nearer⟩ :=
          Delivery.read_spec (Nat.pos_of_ne_zero nothing) left
        have total : delivery.bytes.length = chunk.length + next.bytes.length := by simp [split]
        have taken : delivery.bytes.take want = chunk ++ next.bytes.take (want - chunk.length) := by
          rw [split, List.take_append, List.take_of_length_le bounded]
        have dropped : delivery.bytes.drop want = next.bytes.drop (want - chunk.length) := by
          rw [split, List.drop_append, List.drop_of_length_le bounded, List.nil_append]
        have filled := ih (want - chunk.length) next (by omega) (by omega)
        rw [same] at filled
        obtain ⟨last, rest, ending, eager⟩ := filled
        cases failed : delivery.eager && next.bytes.isEmpty with
        | true =>
            -- The end has come with this chunk, so nothing is missing.
            rw [failed] at read
            have empty : next.bytes = [] := List.isEmpty_iff.mp (Bool.and_eq_true_iff.mp failed).2
            refine ⟨next, ?_, ?_, same⟩
            · rw [deliveries.fill_failed fuel nothing read, taken, failed, empty]
              simp [nothing]
            · rw [dropped, empty, List.drop_nil]
        | false =>
            rw [failed] at read
            refine ⟨last, ?_, ending.trans dropped.symm, eager⟩
            rw [deliveries.fill_more nothing read rest, taken]
            by_cases whole : want - chunk.length = 0
            · rw [whole, List.drop_zero] at ending
              simp [whole, ending, failed]
            · simp [whole, nothing]

section Reading

variable {delivery : Delivery} {head rest : Bytes}

theorem fill_head (split : delivery.bytes = head ++ rest) : ∃ next,
    deliveries.fill (deliveries.turns delivery head.length) head.length delivery =
      (head, head.length ≠ 0 && (delivery.eager && rest.isEmpty), next) ∧
    next.bytes = rest ∧ next.eager = delivery.eager := by
  have enough : head.length ≤ delivery.bytes.length := by simp [split]
  obtain ⟨next, filled, ending, eager⟩ := deliveries_fill _ _ delivery (Nat.le_refl _) enough
  have left : next.bytes = rest := by rw [ending, split, List.drop_left]
  rw [left, split, List.take_left] at filled
  exact ⟨next, filled, left, eager⟩

theorem readLoop_head (split : delivery.bytes = head ++ rest) (nonempty : head.length ≠ 0) : ∃ next,
    deliveries.readLoop delivery head.length =
      (if delivery.eager && rest.isEmpty then none else some head, next) ∧
    next.bytes = rest ∧ next.eager = delivery.eager := by
  obtain ⟨next, filled, kept⟩ := fill_head split
  exact ⟨next, by simp [Reader.readLoop, filled, nonempty], kept⟩

theorem readFull_head (split : delivery.bytes = head ++ rest) : ∃ next,
    deliveries.readFull delivery head.length = (some head, next) ∧
    next.bytes = rest ∧ next.eager = delivery.eager := by
  obtain ⟨next, filled, kept⟩ := fill_head split
  exact ⟨next, by simp [Reader.readFull, filled], kept⟩

end Reading

end Carrier.PacketReader
