import AppNeo3.Apdu.Dispatcher

/-!
# The commands of the host

`neo_n3_cmd_builder.py`, which the tests of the repository talk to the device with: a
command is five header bytes and its data, and a signing session is the path, the
network magic and the transaction in chunks. `chunkify` announces the last chunk with
a flag; when the size is a larger multiple of the chunk length, it announces none.

The SDK parses the bytes of a command before the application sees it.
-/

set_option autoImplicit false

namespace AppNeo3

open Memory

/-! ## Cutting data into chunks -/

/-- The chunks of the loop, from an offset on, and the one behind the loop. -/
def chunksFrom (data : List UInt8) (chunkLen : Nat) : Nat → Nat → List (Bool × List UInt8)
  | 0, offset =>
      if data.length % chunkLen ≠ 0 then [(true, data.drop offset)] else []
  | count + 1, offset =>
      (false, slice data offset chunkLen) :: chunksFrom data chunkLen count (offset + chunkLen)

def chunkify (data : List UInt8) (chunkLen : Nat) : List (Bool × List UInt8) :=
  if data.length ≤ chunkLen then [(true, data)]
  else chunksFrom data chunkLen (data.length / chunkLen) 0

/-- The loop gives full chunks, and the rest follows when there is one. -/
theorem chunksFrom_eq {data : List UInt8} {chunkLen : Nat} (positive : 0 < chunkLen) :
    ∀ {count offset : Nat}, offset + count * chunkLen + data.length % chunkLen = data.length →
      ∃ fronts : List (List UInt8),
        chunksFrom data chunkLen count offset = fronts.map (false, ·) ++
          (if data.length % chunkLen ≠ 0 then [(true, data.drop (offset + count * chunkLen))]
            else []) ∧
        fronts.length = count ∧ (∀ front ∈ fronts, front.length = chunkLen) ∧
        fronts.flatten ++ data.drop (offset + count * chunkLen) = data.drop offset
  | 0, offset, _ => ⟨[], by simp [chunksFrom], rfl, by simp, by simp⟩
  | count + 1, offset, size => by
      have expand : (count + 1) * chunkLen = chunkLen + count * chunkLen := by
        rw [Nat.succ_mul, Nat.add_comm]
      obtain ⟨fronts, chunks, length, full, whole⟩ := @chunksFrom_eq data chunkLen positive count
        (offset + chunkLen) (by omega)
      have shift : offset + (count + 1) * chunkLen = offset + chunkLen + count * chunkLen := by omega
      rw [shift]
      refine ⟨slice data offset chunkLen :: fronts, ?_, congrArg Nat.succ length, ?_, ?_⟩
      · rw [chunksFrom, chunks]
        rfl
      · intro front member
        rcases List.mem_cons.mp member with rfl | later
        · exact length_slice (by omega)
        · exact full front later
      · rw [List.flatten_cons, List.append_assoc, whole, slice, ← List.drop_drop]
        exact List.take_append_drop _ _

/-- **The chunks are the data**, each of them at most as long as asked; a last one is
announced unless the size is a larger multiple of the chunk length. -/
theorem chunkify_eq {data : List UInt8} (nonempty : data ≠ []) {chunkLen : Nat}
    (positive : 0 < chunkLen) :
    ∃ (fronts : List (List UInt8)) (last : Option (List UInt8)),
      chunkify data chunkLen = fronts.map (false, ·) ++ (last.map (true, ·)).toList ∧
      fronts.flatten ++ last.getD [] = data ∧
      (∀ chunk ∈ fronts ++ last.toList, 0 < chunk.length ∧ chunk.length ≤ chunkLen) ∧
      fronts.length ≤ data.length / chunkLen ∧
      (last.isSome ↔ data.length ≤ chunkLen ∨ ¬ chunkLen ∣ data.length) := by
  have some' := List.length_pos_of_ne_nil nonempty
  rw [chunkify]
  by_cases short : data.length ≤ chunkLen
  · refine ⟨[], some data, by rw [if_pos short]; rfl, rfl, ?_, Nat.zero_le _, ?_⟩
    · intro chunk member
      rw [List.nil_append, Option.toList_some, List.mem_singleton] at member
      exact member ▸ ⟨some', short⟩
    · exact iff_of_true rfl (.inl short)
  · rw [if_neg short]
    have size : 0 + data.length / chunkLen * chunkLen + data.length % chunkLen = data.length := by
      rw [Nat.zero_add, Nat.mul_comm]
      exact Nat.div_add_mod _ _
    obtain ⟨fronts, chunks, length, full, whole⟩ := chunksFrom_eq positive size
    have below := Nat.mod_lt data.length positive
    rw [chunks, Nat.dvd_iff_mod_eq_zero]
    by_cases rest : data.length % chunkLen = 0
    · rw [if_neg (not_not_intro rest)]
      refine ⟨fronts, none, rfl, ?_, ?_, Nat.le_of_eq length, ?_⟩
      · rw [List.drop_of_length_le (by omega)] at whole
        exact whole
      · intro chunk member
        rw [Option.toList_none, List.append_nil] at member
        have size := full chunk member
        omega
      · exact iff_of_false Bool.false_ne_true (not_or.mpr ⟨short, not_not_intro rest⟩)
    · rw [if_pos rest]
      refine ⟨fronts, some _, rfl, whole, ?_, Nat.le_of_eq length, iff_of_true rfl (.inr rest)⟩
      intro chunk member
      rw [Option.toList_some, List.mem_append, List.mem_singleton] at member
      rcases member with front | rfl
      · have size := full chunk front
        omega
      · rw [List.length_drop]
        omega

/-! ## The bytes of commands -/

/-- `struct.pack` of a byte, which raises an error for a number that does not fit. -/
def packByte (value : Nat) : Option UInt8 :=
  if value < 256 then some (UInt8.ofNat value) else none

/-- The bytes of a command, or an error. -/
def serialize (cla ins p1 p2 : Nat) (cdata : List UInt8) : Option (List UInt8) := do
  let header ← [cla, ins, p1, p2, cdata.length].mapM packByte
  some (header ++ cdata)

namespace CommandBuilder

/-- `CLA`. -/
abbrev cla : Nat := 0x80

/-- `INS_SIGN_TX`. -/
abbrev insSignTx : Nat := 0x02

/-- `INS_GET_PUBLIC_KEY`. -/
abbrev insGetPublicKey : Nat := 0x04

/-- The largest data of a command. -/
abbrev maxApduLen : Nat := 255

/-- Ask for the key of a packed path. -/
def getPublicKey (packedPath : List UInt8) (display : Bool) : Option (List UInt8) :=
  serialize cla insGetPublicKey 0x00 (if display then 1 else 0) packedPath

/-- The commands of the chunks, from an index on. Nothing follows the last one. -/
def signTxChunks : Nat → List (Bool × List UInt8) → List (Bool × Option (List UInt8))
  | _, [] => []
  | i, (isLast, chunk) :: chunks =>
      if isLast then [(true, serialize cla insSignTx (i + 2) 0x00 chunk)]
      else (false, serialize cla insSignTx (i + 2) 0x80 chunk) :: signTxChunks (i + 1) chunks

/-- The commands of a signing session, each with whether it is the last. The magic is
packed in the order of the host, which is taken to be little-endian. -/
def signTx (packedPath : List UInt8) (networkMagic : UInt32) (tx : List UInt8) :
    List (Bool × Option (List UInt8)) :=
  (false, serialize cla insSignTx 0x00 0x80 packedPath) ::
    (false, serialize cla insSignTx 0x01 0x80 (ByteOrder.leBytes 4 networkMagic.toNat)) ::
      signTxChunks 0 (chunkify tx maxApduLen)

end CommandBuilder

/-! ## The parser of the SDK -/

/-- The bytes that stand for a command: the header, the size of the data, and the
data. -/
def Command.bytes (cmd : Command) : List UInt8 :=
  [cmd.cla, cmd.ins, cmd.p1, cmd.p2, UInt8.ofNat (cmd.data.getD []).length] ++ cmd.data.getD []

/-- `apdu_parser` of the SDK, which finds the command that bytes stand for. -/
structure ApduParser where
  parse : List UInt8 → Option Command
  parse_eq : ∀ cmd, parse cmd.bytes = some cmd

/-- A parser that takes what has the size that the header says. -/
def ApduParser.reference : ApduParser where
  parse
    | cla :: ins :: p1 :: p2 :: lc :: data =>
        if size : data.length = lc.toNat then
          some ⟨cla, ins, p1, p2, if data = [] then none else some data, by
            intro bytes same
            have small := lc.toNat_lt
            split at same
            · cases same
            · rename_i nonempty
              cases same
              exact ⟨List.length_pos_of_ne_nil nonempty, by omega⟩⟩
        else none
    | _ => none
  parse_eq cmd := by
    obtain ⟨cla, ins, p1, p2, data, data_le⟩ := cmd
    cases data with
    | none => rfl
    | some data =>
        obtain ⟨positive, small⟩ := data_le data rfl
        have nonempty : data ≠ [] := List.ne_nil_of_length_pos positive
        have size : data.length = (UInt8.ofNat data.length).toNat :=
          (UInt8.toNat_ofNat_of_lt' (Nat.lt_succ_of_le small)).symm
        simp only [Command.bytes, List.cons_append, List.nil_append, Option.getD_some]
        rw [dif_pos size]
        simp only [if_neg nonempty]

/-- **What the host serializes is a command of its own.** -/
theorem serialize_signTx {chunk : Nat} (more : Bool) {data : List UInt8}
    (size : 0 < data.length ∧ data.length ≤ 255) (small : chunk < 256) :
    serialize CommandBuilder.cla CommandBuilder.insSignTx chunk (if more then 0x80 else 0x00) data =
      some (Command.signTx (UInt8.ofNat chunk) more data size).bytes := by
  have fits : data.length < 256 := Nat.lt_succ_of_le size.2
  cases more <;>
    simp [serialize, packByte, CommandBuilder.cla, CommandBuilder.insSignTx, small, fits,
      Command.bytes, Command.signTx, Instruction.code, AppNeo3.cla, p2More, p2Last]

end AppNeo3
