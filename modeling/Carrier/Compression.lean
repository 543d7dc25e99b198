import Carrier.GoRuntime
import Mathlib.Tactic.Common

/-! Body compression of `network/compress.go`. The stream formats are given by
what their library readers do on a byte string: whether `NewReader` accepts the
header, which bytes a read through it yields, and whether the read ends at the end
of a well-formed stream. The receiving side drops both errors. -/
namespace Carrier.Compression

open GoRuntime

abbrev AlgoType := UInt16

namespace AlgoType

def none : AlgoType := 0
def bzip2 : AlgoType := 1
def gzip : AlgoType := 2
def zlib : AlgoType := 3
def lzw : AlgoType := 4

def known : List AlgoType := [none, bzip2, gzip, zlib, lzw]

end AlgoType

structure Codec where
  compress : Bytes → Bytes
  opens : Bytes → Bool
  output : Bytes → Bytes
  complete : Bytes → Bool

structure Codecs where
  gzip : Codec
  zlib : Codec
  lzw : Codec

/-- The documented contract of a codec: a compressed string is a well-formed
stream of the original, and the empty string is not a stream. -/
structure Codec.Lawful (codec : Codec) : Prop where
  opens : ∀ source, codec.opens (codec.compress source) = true
  complete : ∀ source, codec.complete (codec.compress source) = true
  output : ∀ source, codec.output (codec.compress source) = source
  empty : codec.complete [] = false

structure Codecs.Lawful (codecs : Codecs) : Prop where
  gzip : codecs.gzip.Lawful
  zlib : codecs.zlib.Lawful
  lzw : codecs.lzw.Lawful

structure Settings where
  netID : UInt32
  compressEnable : Bool
  compressSize : Int
  compressAlgo : AlgoType
  deriving DecidableEq, Repr

def Settings.compresses (settings : Settings) (msgSize : Nat) : Bool :=
  settings.compressEnable && decide (msgSize ≥ settings.compressSize)

/-- The algorithm is announced also when the body is not compressed. -/
def genCompressInfo (settings : Settings) (msgSize : Nat) : Outcome UInt16 :=
  let enable : UInt16 := if settings.compresses msgSize then 1 else 0
  if settings.compressAlgo > 0xFF then .panic
  else .done ((enable <<< 8) ||| settings.compressAlgo)

def getCompressInfo (info : UInt16) : AlgoType × Bool := (info &&& 0xFF, info >>> 8 == 1)

/-- `Compress`; `none` is the error for an algorithm it does not know. -/
def compress (codecs : Codecs) (algo : AlgoType) (message : Bytes) : Option Bytes :=
  if algo = AlgoType.bzip2 then some message
  else if algo = AlgoType.gzip then some (codecs.gzip.compress message)
  else if algo = AlgoType.zlib then some (codecs.zlib.compress message)
  else if algo = AlgoType.lzw then some (codecs.lzw.compress message)
  else if algo = AlgoType.none then some message
  else none

/-- `r, _ := NewReader(b)` followed by `io.Copy`: a rejected header leaves a nil
reader, and an error of the copy is ignored. -/
def copyThrough (codec : Codec) (source : Bytes) : Outcome Bytes :=
  if codec.opens source then .done (codec.output source) else .panic

def doGzipUncompress (codecs : Codecs) (source : Bytes) : Outcome Bytes := copyThrough codecs.gzip source

def doZlibUnCompress (codecs : Codecs) (source : Bytes) : Outcome Bytes := copyThrough codecs.zlib source

/-- `lzw.NewReader` has no header to reject. -/
def doLzwUncompress (codecs : Codecs) (source : Bytes) : Bytes := codecs.lzw.output source

/-- `Uncompress`. Its error is always nil, and an unknown algorithm is passed through. -/
def uncompress (codecs : Codecs) (message : Bytes) (algo : AlgoType) : Outcome Bytes :=
  if algo = AlgoType.bzip2 then .done message
  else if algo = AlgoType.gzip then doGzipUncompress codecs message
  else if algo = AlgoType.zlib then doZlibUnCompress codecs message
  else if algo = AlgoType.lzw then .done (doLzwUncompress codecs message)
  else .done message

/-! What a body is for the algorithm its frame announces. -/

def Opens (codecs : Codecs) (algo : AlgoType) (body : Bytes) : Prop :=
  (algo = AlgoType.gzip → codecs.gzip.opens body = true) ∧
  (algo = AlgoType.zlib → codecs.zlib.opens body = true)

def Intact (codecs : Codecs) (algo : AlgoType) (body : Bytes) : Prop :=
  Opens codecs algo body ∧
  (algo = AlgoType.gzip → codecs.gzip.complete body = true) ∧
  (algo = AlgoType.zlib → codecs.zlib.complete body = true) ∧
  (algo = AlgoType.lzw → codecs.lzw.complete body = true)

def output (codecs : Codecs) (algo : AlgoType) (body : Bytes) : Bytes :=
  if algo = AlgoType.gzip then codecs.gzip.output body
  else if algo = AlgoType.zlib then codecs.zlib.output body
  else if algo = AlgoType.lzw then codecs.lzw.output body
  else body

theorem uncompress_eq (codecs : Codecs) (algo : AlgoType) (body : Bytes) :
    (Opens codecs algo body → uncompress codecs body algo = .done (output codecs algo body)) ∧
    (¬ Opens codecs algo body → uncompress codecs body algo = .panic) := by
  by_cases isGzip : algo = AlgoType.gzip
  · subst isGzip
    simp [Opens, uncompress, output, doGzipUncompress, copyThrough, AlgoType.gzip, AlgoType.zlib,
      AlgoType.bzip2]
  · by_cases isZlib : algo = AlgoType.zlib
    · subst isZlib
      simp [Opens, uncompress, output, doZlibUnCompress, copyThrough, AlgoType.gzip, AlgoType.zlib,
        AlgoType.bzip2]
    · simp only [Opens, isGzip, isZlib, false_implies, and_self, true_implies, not_true_eq_false,
        and_true, uncompress, output, if_false, doLzwUncompress]
      split
      · rename_i isBzip
        simp [isBzip, AlgoType.bzip2, AlgoType.lzw]
      · split <;> rfl

/-- Receiving undoes sending, for every algorithm the sender accepts. -/
theorem compress_roundTrip {codecs : Codecs} (lawful : codecs.Lawful) {algo : AlgoType}
    {message body : Bytes} (nonempty : message ≠ []) (sent : compress codecs algo message = some body) :
    uncompress codecs body algo = .done message ∧ body ≠ [] := by
  -- A stream is complete and the empty string is not, so no codec returns it.
  have stream : ∀ codec : Codec, codec.Lawful → codec.compress message ≠ [] := by
    intro codec law empty
    have whole := law.complete message
    rw [empty, law.empty] at whole
    exact Bool.noConfusion whole
  unfold compress at sent
  split at sent
  · rename_i isBzip
    cases sent
    exact ⟨by simp [uncompress, isBzip], nonempty⟩
  · split at sent
    · rename_i isGzip
      cases sent
      exact ⟨by simp [uncompress, isGzip, AlgoType.gzip, AlgoType.bzip2, doGzipUncompress, copyThrough,
        lawful.gzip.opens, lawful.gzip.output], stream _ lawful.gzip⟩
    · split at sent
      · rename_i isZlib
        cases sent
        exact ⟨by simp [uncompress, isZlib, AlgoType.gzip, AlgoType.bzip2, AlgoType.zlib,
          doZlibUnCompress, copyThrough, lawful.zlib.opens, lawful.zlib.output], stream _ lawful.zlib⟩
      · split at sent
        · rename_i isLzw
          cases sent
          exact ⟨by simp [uncompress, isLzw, AlgoType.gzip, AlgoType.bzip2, AlgoType.zlib, AlgoType.lzw,
            doLzwUncompress, lawful.lzw.output], stream _ lawful.lzw⟩
        · split at sent
          · rename_i isNone
            cases sent
            exact ⟨by simp [uncompress, isNone, AlgoType.gzip, AlgoType.bzip2, AlgoType.zlib,
              AlgoType.lzw, AlgoType.none], nonempty⟩
          · exact absurd sent (by simp)

theorem compress_known {algo : AlgoType} (known : algo ∈ AlgoType.known) (codecs : Codecs)
    (message : Bytes) : ∃ body, compress codecs algo message = some body := by
  simp only [AlgoType.known, List.mem_cons, List.not_mem_nil, or_false] at known
  rcases known with rfl | rfl | rfl | rfl | rfl <;> exact ⟨_, rfl⟩

/-- The header carries the flag and the algorithm side by side. -/
theorem compressInfo_roundTrip (settings : Settings) (msgSize : Nat)
    (known : settings.compressAlgo ∈ AlgoType.known) :
    ∃ info, genCompressInfo settings msgSize = .done info ∧
      getCompressInfo info = (settings.compressAlgo, settings.compresses msgSize) := by
  have packed : ¬ settings.compressAlgo > 0xFF ∧ ∀ enable : Bool,
      getCompressInfo (((if enable then 1 else 0 : UInt16) <<< 8) ||| settings.compressAlgo) =
        (settings.compressAlgo, enable) := by
    generalize settings.compressAlgo = algo at known
    simp only [AlgoType.known, List.mem_cons, List.not_mem_nil, or_false] at known
    rcases known with rfl | rfl | rfl | rfl | rfl <;>
      exact ⟨by decide, fun enable => by cases enable <;> decide⟩
  exact ⟨_, if_neg packed.1, packed.2 _⟩

end Carrier.Compression
