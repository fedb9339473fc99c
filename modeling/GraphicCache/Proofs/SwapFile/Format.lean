/-
The format of swap files is exact in both directions. Values are written by a few rules that know
nothing of payloads, and a payload is written as its parts in order. Reading a payload succeeds on
what was written, whatever follows it, and on nothing else: no other bytes are read as a payload,
and no payload begins like another.

That reading undoes writing is the round trip. For the other direction each reader is followed from
its answer back to the bytes it has taken: they are those of the value, and what is left follows
them.
-/
import GraphicCache.Proofs.SwapFile.RoundTrip

namespace GraphicCache

/-! ## The rules of the format -/

/-- A value as it is written. -/
inductive Datum where
  /-- A number that takes `width` bytes. -/
  | number (width n : Nat)
  /-- Values of one kind, of which there may be any number. -/
  | sequence (items : List Datum)
  /-- A value that may be missing. -/
  | missing
  | present (value : Datum)
  /-- The parts of a value in their order. -/
  | parts (items : List Datum)
  /-- One of several forms, under its number. -/
  | form (index : Nat) (content : Datum)

namespace Datum

mutual

/-- Numbers are little-endian and of fixed width; a sequence stands after its length in eight bytes,
a form after its number in four, and a value that may be missing after a byte that tells. -/
def bytes : Datum → List UInt8
  | number width n => SwapFile.littleEndian width n
  | sequence items => SwapFile.littleEndian 8 items.length ++ allBytes items
  | missing => [0]
  | present value => 1 :: value.bytes
  | parts items => allBytes items
  | form index content => SwapFile.littleEndian 4 index ++ content.bytes

def allBytes : List Datum → List UInt8
  | [] => []
  | value :: rest => value.bytes ++ allBytes rest

end

theorem allBytes_map {α : Type} (f : α → Datum) (items : List α) :
    allBytes (items.map f) = items.flatMap fun a => (f a).bytes := by
  induction items with
  | nil => rfl
  | cons a items ih => rw [List.map_cons, allBytes, List.flatMap_cons, ih]

end Datum

/-! ## Payloads as values -/

/-- The number of a vector format. -/
def VectorFormat.number : VectorFormat → Nat
  | .svg => 0
  | .emf => 1
  | .wmf => 2
  | .pdf => 3

/-- The number of a link format. -/
def LinkFormat.number : LinkFormat → Nat
  | .png => 0
  | .jpeg => 1
  | .gif => 2
  | .bmp => 3
  | .tiff => 4
  | .webp => 5
  | .svg => 6
  | .emf => 7
  | .wmf => 8
  | .pdf => 9

/-- A buffer is a sequence of numbers of one byte. -/
def bufferDatum (b : ByteArray) : Datum :=
  .sequence (b.data.toList.map fun x => .number 1 x.toNat)

def Bitmap.datum (b : Bitmap) : Datum :=
  .parts [.number 4 b.width.toNat, .number 4 b.height.toNat, .number 2 b.bitsPerPixel.toNat,
    bufferDatum b.pixels]

/-- A page number is written as the unsigned number with the same bits. -/
def pageDatum : Option Int32 → Datum
  | none => .missing
  | some page => .present (.number 4 page.toUInt32.toNat)

/-- A payload with its parts in the order of their fields. -/
def Payload.datum : Payload → Datum
  | .bitmap b => .form 0 b.datum
  | .animation a =>
    .form 1 (.parts [.sequence (a.frames.map Bitmap.datum), .number 4 a.loopCount.toNat])
  | .vector v =>
    .form 2 (.parts [.form v.format.number (.parts []), bufferDatum v.source, pageDatum v.page])
  | .metafile m =>
    .form 3 (.parts [.number 4 m.width.toNat, .number 4 m.height.toNat, bufferDatum m.actions])
  | .encoded i => .form 4 (.parts [.form i.format.number (.parts []), bufferDatum i.data])

namespace SwapFile

variable {α β : Type}

/-! ## Writing keeps to the rules -/

theorem littleEndian_byte (x : UInt8) : littleEndian 1 x.toNat = [x] := by
  have small : x.toNat % 256 = x.toNat := Nat.mod_eq_of_lt x.toNat_lt
  unfold littleEndian littleEndian
  rw [small, UInt8.ofNat_toNat]

/-- The bytes of a buffer are the numbers that stand for them. -/
theorem allBytes_buffer (l : List UInt8) :
    Datum.allBytes (l.map fun x => .number 1 x.toNat) = l := by
  induction l with
  | nil => rfl
  | cons x l ih =>
    rw [List.map_cons, Datum.allBytes, Datum.bytes, littleEndian_byte, ih, List.singleton_append]

theorem bytes_bufferDatum (b : ByteArray) : (bufferDatum b).bytes = bufferBytes b := by
  have length : b.data.toList.length = b.size := Array.length_toList
  unfold bufferDatum bufferBytes
  rw [Datum.bytes, allBytes_buffer, List.length_map, length]

theorem bytes_pageDatum (page : Option Int32) : (pageDatum page).bytes = pageBytes page := by
  cases page with
  | none =>
    unfold pageDatum
    rw [Datum.bytes]
    rfl
  | some page =>
    unfold pageDatum
    rw [Datum.bytes, Datum.bytes]
    rfl

theorem bytes_bitmap (b : Bitmap) : b.datum.bytes = bitmapBytes b := by
  unfold Bitmap.datum bitmapBytes
  simp only [Datum.bytes, Datum.allBytes, bytes_bufferDatum, List.append_nil]

theorem bytes_frames (frames : List Bitmap) :
    (Datum.sequence (frames.map Bitmap.datum)).bytes =
      littleEndian 8 frames.length ++ frames.flatMap bitmapBytes := by
  rw [Datum.bytes, Datum.allBytes_map, List.length_map]
  simp only [bytes_bitmap]

theorem vectorIndex_eq (f : VectorFormat) : vectorIndex f = f.number := by
  cases f <;> rfl

theorem linkIndex_eq (f : LinkFormat) : linkIndex f = f.number := by
  cases f <;> rfl

/-- A payload is written as the rules say. -/
theorem encode_keeps_format (p : Payload) : (encode p).data.toList = p.datum.bytes := by
  rw [data_encode]
  cases p with
  | bitmap b =>
    unfold Payload.datum payloadBytes
    rw [Datum.bytes, bytes_bitmap]
    rfl
  | animation a =>
    unfold Payload.datum payloadBytes
    rw [Datum.bytes, Datum.bytes, Datum.allBytes, bytes_frames]
    simp only [Datum.bytes, Datum.allBytes, List.append_nil, List.append_assoc]
    rfl
  | vector v =>
    unfold Payload.datum payloadBytes
    simp only [Datum.bytes, Datum.allBytes, bytes_bufferDatum, bytes_pageDatum, vectorIndex_eq,
      List.append_nil]
    rfl
  | metafile m =>
    unfold Payload.datum payloadBytes
    simp only [Datum.bytes, Datum.allBytes, bytes_bufferDatum, List.append_nil]
    rfl
  | encoded i =>
    unfold Payload.datum payloadBytes
    simp only [Datum.bytes, Datum.allBytes, bytes_bufferDatum, linkIndex_eq, List.append_nil]
    rfl

/-! ## Readers in a row -/

section Reading

variable {r : Reader α} {f : α → Reader β} {input rest : List UInt8}

theorem ok_of_row {b : β} (h : (r >>= f) input = .ok (b, rest)) :
    ∃ a left, r input = .ok (a, left) ∧ f a left = .ok (b, rest) := by
  have h : (r input >>= fun p => f p.1 p.2) = .ok (b, rest) := h
  cases read : r input with
  | error e => rw [read] at h; cases h
  | ok p => rw [read] at h; exact ⟨p.1, p.2, rfl, h⟩

/-! ## What was read -/

theorem byte_of_read {b : UInt8} (h : readByte input = .ok (b, rest)) : input = b :: rest := by
  cases input with
  | nil => cases h
  | cons c input => cases h; rfl

theorem number_of_read {count n : Nat} (h : readNumber count input = .ok (n, rest)) :
    n < 256 ^ count ∧ input = littleEndian count n ++ rest := by
  induction count generalizing input n with
  | zero =>
    cases h
    exact ⟨Nat.one_pos, rfl⟩
  | succ count ih =>
    obtain ⟨low, left, first, h⟩ := ok_of_row h
    obtain ⟨high, left', others, h⟩ := ok_of_row h
    cases h
    obtain ⟨small, split⟩ := ih others
    have byte : low.toNat < 256 := low.toNat_lt
    have lowest : (low.toNat + 256 * high) % 256 = low.toNat := by omega
    have higher : (low.toNat + 256 * high) / 256 = high := by omega
    refine ⟨?_, ?_⟩
    · rw [Nat.pow_succ]
      omega
    · rw [byte_of_read first, split, littleEndian, lowest, higher, UInt8.ofNat_toNat]
      rfl

theorem exactly_of_read {count : Nat} {b : ByteArray}
    (h : readExactly count input = .ok (b, rest)) :
    b.size = count ∧ input = b.data.toList ++ rest := by
  unfold readExactly at h
  rw [List.splitAt_eq] at h
  dsimp only at h
  split at h
  · next length =>
    cases h
    have size : (⟨(input.take count).toArray⟩ : ByteArray).size = (input.take count).length :=
      List.size_toArray
    exact ⟨size.trans length, (List.take_append_drop count input).symm⟩
  · cases h

theorem bytes_of_read {b : ByteArray} (h : readBytes input = .ok (b, rest)) :
    b.size < UInt64.size ∧ input = bufferBytes b ++ rest := by
  obtain ⟨count, left, counted, h⟩ := ok_of_row h
  obtain ⟨small, split⟩ := number_of_read counted
  obtain ⟨rfl, split'⟩ := exactly_of_read h
  refine ⟨small, ?_⟩
  rw [split, split', bufferBytes, List.append_assoc]

theorem page_of_read {page : Option Int32} (h : readPage input = .ok (page, rest)) :
    input = pageBytes page ++ rest := by
  obtain ⟨tag, left, tagged, h⟩ := ok_of_row h
  have split := byte_of_read tagged
  split at h
  · next absent =>
    cases h
    rw [split, absent]
    rfl
  · split at h
    · next there =>
      obtain ⟨n, left', numbered, h⟩ := ok_of_row h
      cases h
      obtain ⟨small, split'⟩ := number_of_read numbered
      have bits : (UInt32.ofNat n).toNat = n := UInt32.toNat_ofNat_of_lt' small
      rw [split, split', there, pageBytes]
      show _ = _ ++ littleEndian 4 (UInt32.ofNat n).toNat ++ rest
      rw [bits]
      rfl
    · cases h

theorem pick_of_read {variants : List α} {index : Nat} {v : α}
    (h : pickVariant variants index input = .ok (v, rest)) :
    variants[index]? = some v ∧ input = rest := by
  unfold pickVariant at h
  cases listed : variants[index]? with
  | none => rw [listed] at h; cases h
  | some found =>
    rw [listed] at h
    cases h
    exact ⟨rfl, rfl⟩

/-- Where no variant is listed twice, the number that was read is the one it is written with. -/
theorem variant_of_read [BEq α] [LawfulBEq α] {variants : List α} {v : α}
    (distinct : variants.Nodup) (h : readVariant variants input = .ok (v, rest)) :
    input = littleEndian 4 (variants.idxOf v) ++ rest := by
  obtain ⟨index, left, numbered, h⟩ := ok_of_row h
  obtain ⟨-, split⟩ := number_of_read numbered
  obtain ⟨listed, rfl⟩ := pick_of_read h
  obtain ⟨inside, rfl⟩ := List.getElem?_eq_some_iff.1 listed
  rw [split, distinct.idxOf_getElem]

theorem bitmap_of_read {b : Bitmap} (h : readBitmap input = .ok (b, rest)) :
    b.pixels.size < UInt64.size ∧ input = bitmapBytes b ++ rest := by
  obtain ⟨width, afterWidth, first, h⟩ := ok_of_row h
  obtain ⟨height, afterHeight, second, h⟩ := ok_of_row h
  obtain ⟨depth, afterDepth, third, h⟩ := ok_of_row h
  obtain ⟨pixels, afterPixels, last, h⟩ := ok_of_row h
  cases h
  obtain ⟨widthFits, atWidth⟩ := number_of_read first
  obtain ⟨heightFits, atHeight⟩ := number_of_read second
  obtain ⟨depthFits, atDepth⟩ := number_of_read third
  obtain ⟨pixelsFit, atPixels⟩ := bytes_of_read last
  refine ⟨pixelsFit, ?_⟩
  rw [atWidth, atHeight, atDepth, atPixels, bitmapBytes, UInt32.toNat_ofNat_of_lt' widthFits,
    UInt32.toNat_ofNat_of_lt' heightFits, UInt16.toNat_ofNat_of_lt' depthFits]
  simp only [List.append_assoc]

theorem bitmaps_of_read {count : Nat} {frames : List Bitmap}
    (h : readBitmaps count input = .ok (frames, rest)) :
    frames.length = count ∧ (∀ f ∈ frames, f.pixels.size < UInt64.size) ∧
      input = frames.flatMap bitmapBytes ++ rest := by
  induction count generalizing input frames with
  | zero =>
    cases h
    exact ⟨rfl, by simp, rfl⟩
  | succ count ih =>
    obtain ⟨frame, left, first, h⟩ := ok_of_row h
    obtain ⟨others, left', following, h⟩ := ok_of_row h
    cases h
    obtain ⟨fits, split⟩ := bitmap_of_read first
    obtain ⟨length, othersFit, split'⟩ := ih following
    refine ⟨by rw [List.length_cons, length], List.forall_mem_cons.2 ⟨fits, othersFit⟩, ?_⟩
    rw [split, split', List.flatMap_cons, List.append_assoc]

/-! ## Payloads read -/

/-- What was read after the number of a shape is a payload of that shape. -/
theorem content_of_read {s : Shape} {p : Payload} (h : readShape s input = .ok (p, rest)) :
    shapeOf p = s ∧ p.Fits ∧ input = payloadBytes p ++ rest := by
  cases s with
  | bitmap =>
    obtain ⟨b, left, taken, h⟩ := ok_of_row h
    cases h
    obtain ⟨fits, split⟩ := bitmap_of_read taken
    exact ⟨rfl, fits, split⟩
  | animation =>
    obtain ⟨count, afterCount, counted, h⟩ := ok_of_row h
    obtain ⟨frames, afterFrames, taken, h⟩ := ok_of_row h
    obtain ⟨loops, afterLoops, last, h⟩ := ok_of_row h
    cases h
    obtain ⟨countFits, atCount⟩ := number_of_read counted
    obtain ⟨rfl, framesFit, atFrames⟩ := bitmaps_of_read taken
    obtain ⟨loopsFit, atLoops⟩ := number_of_read last
    refine ⟨rfl, ⟨countFits, framesFit⟩, ?_⟩
    rw [atCount, atFrames, atLoops, payloadBytes, UInt32.toNat_ofNat_of_lt' loopsFit]
    simp only [List.append_assoc]
  | vector =>
    obtain ⟨format, afterFormat, picked, h⟩ := ok_of_row h
    obtain ⟨source, afterSource, taken, h⟩ := ok_of_row h
    obtain ⟨page, afterPage, last, h⟩ := ok_of_row h
    cases h
    have atFormat := variant_of_read (by decide) picked
    obtain ⟨fits, atSource⟩ := bytes_of_read taken
    have atPage := page_of_read last
    refine ⟨rfl, fits, ?_⟩
    rw [atFormat, atSource, atPage, payloadBytes, vectorIndex]
    simp only [List.append_assoc]
  | metafile =>
    obtain ⟨width, afterWidth, first, h⟩ := ok_of_row h
    obtain ⟨height, afterHeight, second, h⟩ := ok_of_row h
    obtain ⟨actions, afterActions, last, h⟩ := ok_of_row h
    cases h
    obtain ⟨widthFits, atWidth⟩ := number_of_read first
    obtain ⟨heightFits, atHeight⟩ := number_of_read second
    obtain ⟨fits, atActions⟩ := bytes_of_read last
    refine ⟨rfl, fits, ?_⟩
    rw [atWidth, atHeight, atActions, payloadBytes, UInt32.toNat_ofNat_of_lt' widthFits,
      UInt32.toNat_ofNat_of_lt' heightFits]
    simp only [List.append_assoc]
  | encoded =>
    obtain ⟨format, afterFormat, picked, h⟩ := ok_of_row h
    obtain ⟨data, afterData, last, h⟩ := ok_of_row h
    cases h
    have atFormat := variant_of_read (by decide) picked
    obtain ⟨fits, atData⟩ := bytes_of_read last
    refine ⟨rfl, fits, ?_⟩
    rw [atFormat, atData, payloadBytes, linkIndex]
    simp only [List.append_assoc]

theorem payload_of_read {p : Payload} (h : readPayload input = .ok (p, rest)) :
    p.Fits ∧ input = (encode p).data.toList ++ rest := by
  obtain ⟨shape, left, picked, h⟩ := ok_of_row h
  have atShape := variant_of_read (by decide) picked
  obtain ⟨rfl, fits, atContent⟩ := content_of_read h
  refine ⟨fits, ?_⟩
  rw [atShape, atContent, data_encode, List.append_assoc]

end Reading

/-! ## Exactness -/

theorem decode_of_read {input rest : List UInt8} {p : Payload}
    (h : readPayload input = .ok (p, rest)) : decode input = .ok p := by
  unfold decode
  rw [h]
  rfl

/-- Bytes are read as a payload when they begin with its encoding, and only then. -/
theorem decode_iff (bytes : List UInt8) (p : Payload) :
    decode bytes = .ok p ↔ p.Fits ∧ ∃ rest, bytes = (encode p).data.toList ++ rest := by
  constructor
  · intro h
    unfold decode at h
    cases taken : readPayload bytes with
    | error e => rw [taken] at h; cases h
    | ok read =>
      rw [taken] at h
      cases h
      obtain ⟨fits, split⟩ := payload_of_read taken
      exact ⟨fits, read.2, split⟩
  · rintro ⟨fits, rest, rfl⟩
    exact decode_of_read (takes_payload p fits rest)

/-- Of two payloads neither is written as the beginning of the other. -/
theorem eq_of_encode_prefix {p q : Payload} (hp : p.Fits) (hq : q.Fits)
    (h : (encode q).data.toList <+: (encode p).data.toList) : q = p := by
  obtain ⟨rest, extended⟩ := h
  have readAsLonger : decode (encode p).data.toList = .ok p :=
    (decode_iff _ p).2 ⟨hp, [], (List.append_nil _).symm⟩
  have readAsShorter : decode (encode p).data.toList = .ok q :=
    (decode_iff _ q).2 ⟨hq, rest, extended.symm⟩
  rw [readAsLonger] at readAsShorter
  exact (Except.ok.inj readAsShorter).symm

/-- A payload is written by the rules of the format; bytes are read as it exactly when they begin
with what it is written as, whatever follows; and no other payload of lengths that fit is written as
a beginning of that. -/
theorem codec_is_exact (p : Payload) :
    (encode p).data.toList = p.datum.bytes ∧
    (∀ bytes, decode bytes = .ok p ↔ p.Fits ∧ ∃ rest, bytes = (encode p).data.toList ++ rest) ∧
    (p.Fits → ∀ q : Payload, q.Fits → (encode q).data.toList <+: (encode p).data.toList → q = p) :=
  ⟨encode_keeps_format p, fun bytes => decode_iff bytes p,
    fun hp _ hq => eq_of_encode_prefix hp hq⟩

/-- A page of a vector source is read from its bytes with one more behind them, and nothing else is
written as a beginning of them. -/
theorem page_is_read_exactly :
    decode ([2, 0, 0, 0, 3, 0, 0, 0, 1, 0, 0, 0, 0, 0, 0, 0, 37, 1, 254, 255, 255, 255] ++ [9]) =
        .ok (.vector ⟨.pdf, ⟨#[37]⟩, some (-2)⟩) ∧
      ∀ q : Payload, q.Fits →
        (encode q).data.toList <+: (encode (.vector ⟨.pdf, ⟨#[37]⟩, some (-2)⟩)).data.toList →
        q = .vector ⟨.pdf, ⟨#[37]⟩, some (-2)⟩ := by
  have fits : Payload.Fits (.vector ⟨.pdf, ⟨#[37]⟩, some (-2)⟩) := by decide
  obtain ⟨-, read, alone⟩ := codec_is_exact (.vector ⟨.pdf, ⟨#[37]⟩, some (-2)⟩)
  have written : (encode (.vector ⟨.pdf, ⟨#[37]⟩, some (-2)⟩)).data.toList =
      [2, 0, 0, 0, 3, 0, 0, 0, 1, 0, 0, 0, 0, 0, 0, 0, 37, 1, 254, 255, 255, 255] := by
    decide +kernel
  exact ⟨(read _).2 ⟨fits, [9], by rw [written]⟩, alone fits⟩

end SwapFile

end GraphicCache
