/-
Swap files are read from left to right. A reader that has answered would answer the same with more
bytes behind its data; only that the data has ended is an answer that more bytes can change. So a
file that was cut anywhere is recognised: had the reading of what is left come to anything else, the
reading of the whole file would have come to it too.

A length that is larger than what follows it also ends in a lack of data, however large it is. Where
lengths stand is told by the rules of the format.
-/
import GraphicCache.Proofs.SwapFile.Format

namespace GraphicCache

/-! ## Where lengths stand -/

namespace Datum

mutual

/-- What is written of a value before each of its lengths. -/
def beforeLengths : Datum → List (List UInt8)
  | number _ _ => []
  | sequence items =>
    [] :: (allBeforeLengths items).map (SwapFile.littleEndian 8 items.length ++ ·)
  | missing => []
  | present value => value.beforeLengths.map (1 :: ·)
  | parts items => allBeforeLengths items
  | form index content => content.beforeLengths.map (SwapFile.littleEndian 4 index ++ ·)

def allBeforeLengths : List Datum → List (List UInt8)
  | [] => []
  | value :: rest => value.beforeLengths ++ (allBeforeLengths rest).map (value.bytes ++ ·)

end

/-- A buffer has no length but its own. -/
theorem beforeLengths_buffer (b : ByteArray) : (bufferDatum b).beforeLengths = [[]] := by
  have none (l : List UInt8) : allBeforeLengths (l.map fun x => .number 1 x.toNat) = [] := by
    induction l with
    | nil => rfl
    | cons x l ih => rw [List.map_cons, allBeforeLengths, beforeLengths, ih]; rfl
  rw [bufferDatum, beforeLengths, none, List.map_nil]

theorem beforeLengths_page (page : Option Int32) : (pageDatum page).beforeLengths = [] := by
  cases page <;> rfl

end Datum

namespace SwapFile

variable {α β : Type} {r : Reader α} {f : α → Reader β} {input left before bytes : List UInt8}
  {a : α} {e : DecodeError}

/-! ## Readers in a row -/

theorem row_of_ok (h : r input = .ok (a, left)) : (r >>= f) input = f a left := by
  show (r input >>= fun p => f p.1 p.2) = _
  rw [h]
  rfl

theorem row_of_error (h : r input = .error e) : (r >>= f) input = .error e := by
  show (r input >>= fun p => f p.1 p.2) = _
  rw [h]
  rfl

/-- A row fails at one of its readers. -/
theorem error_of_row (h : (r >>= f) input = .error e) :
    r input = .error e ∨ ∃ a left, r input = .ok (a, left) ∧ f a left = .error e := by
  cases read : r input with
  | error e' =>
    rw [row_of_error read] at h
    cases h
    exact .inl rfl
  | ok p =>
    rw [row_of_ok read] at h
    exact .inr ⟨p.1, p.2, rfl, h⟩

/-! ## Readers that look no further -/

/-- More bytes behind the data change nothing but that it has ended too early: what was taken stays
the same and more is left, and any other error stays the same. -/
structure Steady (r : Reader α) : Prop where
  ok : ∀ {input left a}, r input = .ok (a, left) →
    ∀ more, r (input ++ more) = .ok (a, left ++ more)
  error : ∀ {input e}, r input = .error e → e ≠ .endOfData → ∀ more, r (input ++ more) = .error e

theorem steady_pure (a : α) : Steady (pure a : Reader α) where
  ok h more := by cases h; rfl
  error h := by cases h

theorem steady_throw (e : DecodeError) : Steady (throw e : Reader α) where
  ok h := by cases h
  error h _ more := by cases h; rfl

theorem Steady.bind (h : Steady r) (hf : ∀ a, Steady (f a)) : Steady (r >>= f) where
  ok done more := by
    obtain ⟨a, left, first, second⟩ := ok_of_row done
    rw [row_of_ok (h.ok first more)]
    exact (hf a).ok second more
  error failed other more := by
    rcases error_of_row failed with first | ⟨a, left, first, second⟩
    · exact row_of_error (h.error first other more)
    · rw [row_of_ok (h.ok first more)]
      exact (hf a).error second other more

theorem steady_byte : Steady readByte where
  ok {input _ _} h more := by
    cases input with
    | nil => cases h
    | cons b input => cases h; rfl
  error {input _} h other := by
    cases input with
    | nil => cases h; exact absurd rfl other
    | cons b input => cases h

theorem steady_number (count : Nat) : Steady (readNumber count) := by
  induction count with
  | zero => exact steady_pure 0
  | succ count ih => exact steady_byte.bind fun _ => ih.bind fun _ => steady_pure _

theorem readExactly_of_le {count : Nat} (enough : count ≤ input.length) :
    readExactly count input = .ok (⟨(input.take count).toArray⟩, input.drop count) := by
  unfold readExactly
  rw [List.splitAt_eq]
  exact if_pos (List.length_take_of_le enough)

theorem readExactly_of_lt {count : Nat} (short : input.length < count) :
    readExactly count input = .error .endOfData := by
  have taken : (input.take count).length ≠ count := by
    rw [List.length_take]
    omega
  unfold readExactly
  rw [List.splitAt_eq]
  exact if_neg taken

theorem steady_exactly (count : Nat) : Steady (readExactly count) where
  ok {input _ _} h more := by
    by_cases enough : count ≤ input.length
    · have longer : count ≤ (input ++ more).length := by
        rw [List.length_append]
        omega
      cases (readExactly_of_le enough).symm.trans h
      rw [readExactly_of_le longer, List.take_append_of_le_length enough,
        List.drop_append_of_le_length enough]
    · cases (readExactly_of_lt (by omega)).symm.trans h
  error {input _} h other := by
    by_cases enough : count ≤ input.length
    · cases (readExactly_of_le enough).symm.trans h
    · cases (readExactly_of_lt (by omega)).symm.trans h
      exact absurd rfl other

theorem steady_bytes : Steady readBytes := (steady_number 8).bind steady_exactly

theorem steady_page : Steady readPage := by
  refine steady_byte.bind fun tag => ?_
  split
  · exact steady_pure _
  · split
    · exact (steady_number 4).bind fun _ => steady_pure _
    · exact steady_throw _

theorem steady_variant (variants : List α) : Steady (readVariant variants) := by
  refine (steady_number 4).bind fun index => ?_
  unfold pickVariant
  split
  · exact steady_pure _
  · exact steady_throw _

theorem steady_bitmap : Steady readBitmap :=
  (steady_number 4).bind fun _ => (steady_number 4).bind fun _ => (steady_number 2).bind fun _ =>
    steady_bytes.bind fun _ => steady_pure _

theorem steady_bitmaps (count : Nat) : Steady (readBitmaps count) := by
  induction count with
  | zero => exact steady_pure []
  | succ count ih => exact steady_bitmap.bind fun _ => ih.bind fun _ => steady_pure _

theorem steady_shape (s : Shape) : Steady (readShape s) := by
  cases s with
  | bitmap => exact steady_bitmap.bind fun _ => steady_pure _
  | animation =>
    exact (steady_number 8).bind fun count => (steady_bitmaps count).bind fun _ =>
      (steady_number 4).bind fun _ => steady_pure _
  | vector =>
    exact (steady_variant _).bind fun _ => steady_bytes.bind fun _ => steady_page.bind fun _ =>
      steady_pure _
  | metafile =>
    exact (steady_number 4).bind fun _ => (steady_number 4).bind fun _ => steady_bytes.bind fun _ =>
      steady_pure _
  | encoded => exact (steady_variant _).bind fun _ => steady_bytes.bind fun _ => steady_pure _

theorem steady_payload : Steady readPayload := (steady_variant _).bind steady_shape

/-! ## Data that goes on, and data that was cut -/

theorem decode_append (settled : decode input ≠ .error .endOfData) (more : List UInt8) :
    decode (input ++ more) = decode input := by
  unfold decode at settled ⊢
  cases read : readPayload input with
  | ok p => rw [steady_payload.ok read more]; rfl
  | error e =>
    have other : e ≠ .endOfData := by
      rintro rfl
      exact settled (by rw [read]; rfl)
    rw [steady_payload.error read other more]

/-- What is left of the bytes of a payload after a cut is recognised as cut. -/
theorem decode_cut {p : Payload} (fits : p.Fits) (early : input <+: (encode p).data.toList)
    (shorter : input ≠ (encode p).data.toList) : decode input = .error .endOfData := by
  by_contra settled
  obtain ⟨more, whole⟩ := early
  have read : decode (input ++ more) = .ok p :=
    whole ▸ (decode_iff _ p).2 ⟨fits, [], (List.append_nil _).symm⟩
  rw [decode_append settled] at read
  -- what is read as the payload begins with all of its bytes
  obtain ⟨-, rest, longer⟩ := (decode_iff input p).1 read
  have cut : more = [] ∧ rest = [] := by
    have length := congrArg List.length whole
    rw [longer, List.length_append, List.length_append] at length
    exact ⟨List.eq_nil_of_length_eq_zero (by omega), List.eq_nil_of_length_eq_zero (by omega)⟩
  rw [cut.1, List.append_nil] at whole
  exact shorter whole

/-! ## Lengths that are too large -/

/-- The reader runs out of data where after `before` there is a length that is larger than what
follows it. -/
def Starves (r : Reader α) (before : List UInt8) : Prop :=
  ∀ n following, n < UInt64.size → following.length < n →
    r (before ++ (littleEndian 8 n ++ following)) = .error .endOfData

theorem Starves.bind (h : Starves r before) : Starves (r >>= f) before :=
  fun n following small short => row_of_error (h n following small short)

/-- What comes before the length may be taken by readers that come first. -/
theorem Takes.starves (h : Takes r bytes a) (hf : Starves (f a) before) :
    Starves (r >>= f) (bytes ++ before) := by
  intro n following small short
  rw [List.append_assoc, row_of_ok (h _)]
  exact hf n following small short

theorem starves_bytes : Starves readBytes [] := by
  intro n following small short
  rw [List.nil_append]
  unfold readBytes
  rw [row_of_ok (takes_number 8 n small following)]
  exact readExactly_of_lt short

theorem starves_bitmap (b : Bitmap) :
    ∀ before ∈ b.datum.beforeLengths, Starves readBitmap before := by
  intro before listed
  have header : before = littleEndian 4 b.width.toNat ++ (littleEndian 4 b.height.toNat ++
      (littleEndian 2 b.bitsPerPixel.toNat ++ [])) := by
    unfold Bitmap.datum at listed
    simpa [Datum.beforeLengths, Datum.allBeforeLengths, Datum.bytes,
      Datum.beforeLengths_buffer] using listed
  rw [header]
  exact (takes_number 4 _ b.width.toNat_lt).starves ((takes_number 4 _ b.height.toNat_lt).starves
    ((takes_number 2 _ b.bitsPerPixel.toNat_lt).starves starves_bytes.bind))

/-- The only thing that can be wrong for the reader is that the data ends too early. -/
def Undemanding (r : Reader α) : Prop := ∀ input e, r input = .error e → e = .endOfData

theorem undemanding_pure (a : α) : Undemanding (pure a : Reader α) := nofun

theorem Undemanding.bind (h : Undemanding r) (hf : ∀ a, Undemanding (f a)) :
    Undemanding (r >>= f) := by
  intro input e failed
  rcases error_of_row failed with first | ⟨a, left, -, second⟩
  · exact h input e first
  · exact hf a left e second

theorem undemanding_number (count : Nat) : Undemanding (readNumber count) := by
  have byte : Undemanding readByte := by
    intro input e failed
    cases input with
    | nil => cases failed; rfl
    | cons b input => cases failed
  induction count with
  | zero => exact undemanding_pure 0
  | succ count ih => exact byte.bind fun _ => ih.bind fun _ => undemanding_pure _

theorem undemanding_bytes : Undemanding readBytes := by
  refine (undemanding_number 8).bind fun count input e failed => ?_
  by_cases enough : count ≤ input.length
  · cases (readExactly_of_le enough).symm.trans failed
  · cases (readExactly_of_lt (by omega)).symm.trans failed
    rfl

theorem undemanding_bitmaps (count : Nat) : Undemanding (readBitmaps count) := by
  have bitmap : Undemanding readBitmap :=
    (undemanding_number 4).bind fun _ => (undemanding_number 4).bind fun _ =>
      (undemanding_number 2).bind fun _ => undemanding_bytes.bind fun _ => undemanding_pure _
  induction count with
  | zero => exact undemanding_pure []
  | succ count ih => exact bitmap.bind fun _ => ih.bind fun _ => undemanding_pure _

/-- Each bitmap takes a byte at least. -/
theorem length_le_bitmaps (frames : List Bitmap) :
    frames.length ≤ (frames.flatMap bitmapBytes).length := by
  induction frames with
  | nil => exact Nat.le_refl 0
  | cons b frames ih =>
    have byte : 0 < (bitmapBytes b).length := by
      unfold bitmapBytes littleEndian
      exact Nat.succ_pos _
    rw [List.flatMap_cons, List.length_append, List.length_cons]
    omega

/-- So there are no more bitmaps than bytes. -/
theorem bitmaps_of_short {count : Nat} (short : input.length < count) :
    readBitmaps count input = .error .endOfData := by
  cases read : readBitmaps count input with
  | error e => rw [undemanding_bitmaps count input e read]
  | ok p =>
    -- had they been read, they would have taken as many bytes at least
    obtain ⟨counted, -, split⟩ := bitmaps_of_read read
    have many := length_le_bitmaps p.1
    rw [split, List.length_append] at short
    omega

/-- Among bitmaps a length is that of one of them, and the bitmaps before are read. -/
theorem starves_bitmaps {frames : List Bitmap} (fit : ∀ b ∈ frames, b.pixels.size < UInt64.size) :
    ∀ before ∈ Datum.allBeforeLengths (frames.map Bitmap.datum),
      Starves (readBitmaps frames.length) before := by
  induction frames with
  | nil => nofun
  | cons b frames ih =>
    obtain ⟨first, others⟩ := List.forall_mem_cons.1 fit
    intro before listed
    rw [List.map_cons, Datum.allBeforeLengths, bytes_bitmap, List.mem_append] at listed
    rcases listed with own | later
    · exact (starves_bitmap b before own).bind
    · obtain ⟨before, listed, rfl⟩ := List.mem_map.1 later
      exact (takes_bitmap b first).starves (ih others before listed).bind

/-- A number of bitmaps that is larger than what follows it is no better. -/
theorem starves_frames {g : List Bitmap → Reader β} :
    Starves (readNumber 8 >>= fun count => readBitmaps count >>= g) [] := by
  intro n following small short
  rw [List.nil_append, row_of_ok (takes_number 8 n small following)]
  exact row_of_error (bitmaps_of_short short)

/-! ## The lengths of a payload -/

theorem starves_payload {p : Payload} (fits : p.Fits) :
    ∀ before ∈ p.datum.beforeLengths, Starves readPayload before := by
  have shape (p : Payload) {before : List UInt8} (h : Starves (readShape (shapeOf p)) before) :
      Starves readPayload (littleEndian 4 (Shape.all.idxOf (shapeOf p)) ++ before) :=
    (takes_shape (shapeOf p)).starves h
  intro before listed
  cases p with
  | bitmap b =>
    rw [Payload.datum, Datum.beforeLengths] at listed
    obtain ⟨inner, own, rfl⟩ := List.mem_map.1 listed
    exact shape (.bitmap b) (starves_bitmap b inner own).bind
  | animation a =>
    simp only [Payload.datum, Datum.beforeLengths, Datum.allBeforeLengths, List.append_nil,
      List.map_nil, List.length_map, List.map_cons, List.mem_cons, List.mem_map] at listed
    -- the number of frames is a length, and so is that of each buffer among them
    rcases listed with rfl | ⟨_, ⟨inner, own, rfl⟩, rfl⟩
    · exact shape (.animation a) starves_frames
    · exact shape (.animation a)
        ((takes_number 8 _ fits.1).starves (starves_bitmaps fits.2 inner own).bind)
  | vector v =>
    have header : before =
        littleEndian 4 2 ++ (littleEndian 4 (vectorIndex v.format) ++ []) := by
      simpa [Payload.datum, Datum.beforeLengths, Datum.allBeforeLengths, Datum.bytes,
        Datum.allBytes, Datum.beforeLengths_buffer, Datum.beforeLengths_page,
        vectorIndex_eq] using listed
    rw [header]
    exact shape (.vector v) ((takes_vectorFormat v.format).starves starves_bytes.bind)
  | metafile m =>
    have header : before = littleEndian 4 3 ++
        (littleEndian 4 m.width.toNat ++ (littleEndian 4 m.height.toNat ++ [])) := by
      simpa [Payload.datum, Datum.beforeLengths, Datum.allBeforeLengths, Datum.bytes,
        Datum.beforeLengths_buffer] using listed
    rw [header]
    exact shape (.metafile m) ((takes_number 4 _ m.width.toNat_lt).starves
      ((takes_number 4 _ m.height.toNat_lt).starves starves_bytes.bind))
  | encoded i =>
    have header : before = littleEndian 4 4 ++ (littleEndian 4 (linkIndex i.format) ++ []) := by
      simpa [Payload.datum, Datum.beforeLengths, Datum.allBeforeLengths, Datum.bytes,
        Datum.allBytes, Datum.beforeLengths_buffer, linkIndex_eq] using listed
    rw [header]
    exact shape (.encoded i) ((takes_linkFormat i.format).starves starves_bytes.bind)

/-- Decoding goes from left to right, so it tells data that was cut from data that is wrong. -/
theorem decoding_goes_from_left_to_right :
    (∀ input, decode input ≠ .error .endOfData →
      ∀ more, decode (input ++ more) = decode input) ∧
    (∀ p : Payload, p.Fits → ∀ cut, cut <+: (encode p).data.toList →
      cut ≠ (encode p).data.toList → decode cut = .error .endOfData) ∧
    ∀ p : Payload, p.Fits → ∀ before ∈ p.datum.beforeLengths, ∀ n < UInt64.size,
      ∀ following : List UInt8, following.length < n →
        decode (before ++ (littleEndian 8 n ++ following)) = .error .endOfData := by
  refine ⟨fun input settled more => decode_append settled more,
    fun p fits cut early shorter => decode_cut fits early shorter, ?_⟩
  intro p fits before listed n small following short
  unfold decode
  rw [starves_payload fits before listed n following small short]
  rfl

/-- A wrong tag before a page stays wrong with more bytes behind it, a source without its page is
cut, and so is one that should be as long as no file is. -/
theorem cut_page_is_told_from_wrong_page :
    decode ([2, 0, 0, 0, 3, 0, 0, 0, 1, 0, 0, 0, 0, 0, 0, 0, 37, 7] ++ [254, 255]) =
        .error (.badTag 7) ∧
      decode [2, 0, 0, 0, 3, 0, 0, 0, 1, 0, 0, 0, 0, 0, 0, 0, 37] = .error .endOfData ∧
      decode ([2, 0, 0, 0, 3, 0, 0, 0] ++ (littleEndian 8 18446744073709551615 ++ [37, 0])) =
        .error .endOfData := by
  obtain ⟨leftToRight, cut, starved⟩ := decoding_goes_from_left_to_right
  have fits : Payload.Fits (.vector ⟨.pdf, ⟨#[37]⟩, some (-2)⟩) := by decide
  have wrong : decode [2, 0, 0, 0, 3, 0, 0, 0, 1, 0, 0, 0, 0, 0, 0, 0, 37, 7] =
      .error (.badTag 7) := by
    decide +kernel
  refine ⟨?_, cut _ fits _ (by decide +kernel) (by decide +kernel),
    starved _ fits _ (by decide +kernel) _ (by decide) _ (by decide)⟩
  rw [leftToRight _ (by rw [wrong]; nofun) _, wrong]

end SwapFile

end GraphicCache
