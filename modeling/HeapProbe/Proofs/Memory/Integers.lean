import HeapProbe.Proofs.Image.Contents

/-! # Integers in memory

Reading an integer inverts its encoding. A read of 4 or 8 bytes ends with a number exactly if the
debugger gives that many bytes, and then those bytes are the number's encoding in the byte order of
the process. A word is read by the address size that the process has at the time. If that is neither
4 nor 8 there is no such word, and a read is a fault unless it happens to be given four bytes.
-/

namespace HeapProbe

open Probe

namespace Image

variable {image : Image}

/-- A read at an address is not made to fail, nor cut short of a count of bytes. -/
structure GivesAll (image : Image) (address : Int) (count : Nat) : Prop where
  noError : image.readError = none
  notShort : ∀ most, image.short.lookup address = some most → count ≤ most

/-- A read at an address is given all bytes of a number, which memory holds there. -/
def Spells (image : Image) (width : Nat) (address value : Int) : Prop :=
  image.GivesAll address width ∧ ∃ word : Nat, value = word ∧ image.Holds width address word

theorem holds_iff {width : Nat} {address : Int} {value : Nat} :
    image.Holds width address value ↔ value < 2 ^ (8 * width) ∧
      image.memory.bytesAt? address width = some (image.wordOrder.encode width value) :=
  ⟨fun h => ⟨h.fits, h.bytes⟩, fun ⟨hfits, hbytes⟩ => ⟨hfits, hbytes⟩⟩

/-- As many bytes as were asked for are the bytes in memory. -/
theorem read_full_iff {address : Int} {count : Nat} {bytes : List UInt8} :
    image.read address count = .ok bytes ∧ bytes.length = count ↔
      image.GivesAll address count ∧ image.memory.bytesAt? address count = some bytes := by
  constructor
  · rintro ⟨hread, hlength⟩
    -- A short answer has fewer bytes than were asked for, so the bytes given are all there were.
    rw [read, Int.toNat_natCast] at hread
    cases he : image.readError with
    | some text => simp [he] at hread
    | none =>
      cases hm : image.memory.bytesAt? address count with
      | none => simp [he, hm] at hread
      | some all =>
        have hall : all.length = count := Memory.length_of_bytesAt? hm
        cases hs : image.short.lookup address with
        | none =>
          obtain rfl : all = bytes := by simpa [he, hm, hs] using hread
          exact ⟨⟨he, by simp [hs]⟩, rfl⟩
        | some most =>
          obtain rfl : all.take most = bytes := by simpa [he, hm, hs] using hread
          have hmost : count ≤ most := by
            rw [List.length_take] at hlength
            omega
          rw [List.take_of_length_le (by omega)]
          exact ⟨⟨he, by simpa [hs] using hmost⟩, rfl⟩
  · rintro ⟨⟨he, hshort⟩, hm⟩
    have hall : bytes.length = count := Memory.length_of_bytesAt? hm
    refine ⟨?_, hall⟩
    rw [read, Int.toNat_natCast, he, hm]
    cases hs : image.short.lookup address with
    | none => rfl
    | some most =>
      have hmost := hshort most hs
      dsimp only
      rw [List.take_of_length_le (by omega)]

/-- What memory spells is what a full read decodes to. -/
theorem spells_iff {width : Nat} {address value : Int} :
    image.Spells width address value ↔
      ∃ bytes, image.read address width = .ok bytes ∧ bytes.length = width ∧
        value = image.wordOrder.decode bytes := by
  constructor
  · rintro ⟨hall, word, rfl, hfits, hbytes⟩
    obtain ⟨hread, hlength⟩ := read_full_iff.2 ⟨hall, hbytes⟩
    refine ⟨_, hread, hlength, ?_⟩
    rw [Nat.pow_mul] at hfits
    rw [ByteOrder.decode_encode _ hfits]
  · rintro ⟨bytes, hread, rfl, rfl⟩
    obtain ⟨hall, hbytes⟩ := read_full_iff.1 ⟨hread, rfl⟩
    refine ⟨hall, _, rfl, ?_, ?_⟩
    · rw [Nat.pow_mul]
      exact image.wordOrder.decode_lt bytes
    · rw [ByteOrder.encode_decode, hbytes]

end Image

namespace View

variable (view : View)

theorem byteOrder_eq (hb : view.host.bindings) : view.byteOrder = view.image.wordOrder := by
  simp [byteOrder, Image.wordOrder, hb]

theorem finding_eq_ok_iff (hb : view.host.bindings) {load : Load} {place length value : Int} :
    (view.finding load place length).outcome = .ok value ↔
      ∃ bytes, view.image.read load.address load.size = .ok bytes ∧ bytes.length = load.width ∧
        value = view.image.wordOrder.decode bytes := by
  rw [finding, Finding.relabel, yields, if_pos hb, view.byteOrder_eq hb]
  cases view.image.read load.address load.size with
  | error reason => simp
  | ok bytes =>
    by_cases hl : bytes.length = load.width
    · simp [hl, eq_comm]
    · simp [hl]

theorem finding_spells (hb : view.host.bindings) {width : Nat}
    {address place length value : Int} :
    (view.finding ⟨width, address, width⟩ place length).outcome = .ok value ↔
      view.image.Spells width address value := by
  rw [view.finding_eq_ok_iff hb, Image.spells_iff]

theorem pointerLoad_of_wordSize {width : Nat} (hs : view.image.wordSize = width)
    (hw : width = 4 ∨ width = 8) (address : Int) :
    view.pointerLoad address = ⟨width, address, width⟩ := by
  have hsize : view.pointerSize = width := hs
  rw [pointerLoad, hsize]
  rcases hw with rfl | rfl <;> rfl

theorem finding_eq_error (hb : view.host.bindings) {load : Load} {place length : Int}
    (h : ∀ value, (view.finding load place length).outcome ≠ .ok value) :
    ∃ cause, (view.finding load place length).outcome =
      .error (.unavailable place length (some cause)) := by
  cases hf : (view.finding load place length).outcome with
  | ok value => exact absurd hf (h value)
  | error fault =>
    rcases view.fault_of_finding hf with ⟨hno, -⟩ | ⟨-, cause, rfl⟩
    · simp [hb] at hno
    · exact ⟨cause, rfl⟩

/-- A pointer of an odd size is expected to come in four bytes, however many are asked for. -/
theorem pointer_of_odd_size (hb : view.host.bindings) (h8 : view.image.wordSize ≠ 8)
    {address place length : Int} :
    (∀ bytes, view.image.read address view.image.wordSize = .ok bytes → bytes.length = 4 →
      (view.finding (view.pointerLoad address) place length).outcome =
        .ok (view.image.wordOrder.decode bytes)) ∧
    ((∀ bytes, view.image.read address view.image.wordSize = .ok bytes → bytes.length ≠ 4) →
      ∃ cause, (view.finding (view.pointerLoad address) place length).outcome =
        .error (.unavailable place length (some cause))) := by
  have hload : view.pointerLoad address = ⟨4, address, view.image.wordSize⟩ := by
    rw [pointerLoad, if_neg (show view.pointerSize ≠ 8 from h8)]
    rfl
  rw [hload]
  constructor
  · intro bytes hread hlength
    exact (view.finding_eq_ok_iff hb).2 ⟨bytes, hread, hlength, rfl⟩
  · intro hnone
    refine view.finding_eq_error hb fun value hvalue => ?_
    obtain ⟨bytes, hread, hlength, -⟩ := (view.finding_eq_ok_iff hb).1 hvalue
    exact hnone bytes hread hlength

end View

/-- How a reader reads integers in a context that has the image it reads. -/
structure Reader.InvertsEncoding (reader : Reader) (image : Image) (context : Context) : Prop where
  uint32 (address value : Int) :
    outcome (reader.readUInt32 address) context = .ok value ↔ image.Spells 4 address value
  uint64 (address value : Int) :
    outcome (reader.readUInt64 address) context = .ok value ↔ image.Spells 8 address value
  word (address value : Int) {width : Nat} : image.wordSize = width → width = 4 ∨ width = 8 →
    (outcome (reader.readWord address) context = .ok value ↔ image.Spells width address value)
  decoded (address value : Int) : image.wordSize = 4 ∨ image.wordSize = 8 →
    (outcome (reader.readWord address) context = .ok value ↔
      ∃ bytes, outcome (reader.read address image.wordSize) context = .ok bytes ∧
        value = image.wordOrder.decode bytes)
  element (base index : Int) : reader.pointerSize = image.wordSize →
    reader.readAddressAt base index context =
      reader.readWord (base + index * reader.pointerSize) context
  /-- Words of an odd size: four bytes are taken for one, and nothing else is. -/
  odd (address : Int) : image.wordSize ≠ 4 → image.wordSize ≠ 8 →
    (∀ bytes, image.read address image.wordSize = .ok bytes → bytes.length = 4 →
      outcome (reader.readWord address) context = .ok (image.wordOrder.decode bytes)) ∧
    ((∀ bytes, image.read address image.wordSize = .ok bytes → bytes.length ≠ 4) →
      ∃ cause, outcome (reader.readWord address) context =
        .error (.unavailable address reader.pointerSize (some cause)))
  oddElement (base index : Int) : image.wordSize ≠ 4 → image.wordSize ≠ 8 →
    (∀ bytes, image.read (base + index * image.wordSize) image.wordSize = .ok bytes →
      bytes.length = 4 →
        outcome (reader.readAddressAt base index) context = .ok (image.wordOrder.decode bytes)) ∧
    ((∀ bytes, image.read (base + index * image.wordSize) image.wordSize = .ok bytes →
      bytes.length ≠ 4) →
        ∃ cause, outcome (reader.readAddressAt base index) context =
          .error (.unavailable (base + index * reader.pointerSize) reader.pointerSize (some cause)))
  /-- A process that does not know its target has words of 8 bytes, the lowest first. -/
  targetless (address value : Int) : image.knowsTarget = false →
    (outcome (reader.readWord address) context = .ok value ↔
      image.GivesAll address 8 ∧ ∃ word : Nat, value = word ∧ word < 2 ^ 64 ∧
        image.memory.bytesAt? address 8 = some (ByteOrder.little.encode 8 word))

namespace View

variable {view : View} {context : Context}

theorem readExactly_eq_ok_iff (hv : view.host = context.host) (hb : view.host.bindings)
    {address length : Int} {bytes : List UInt8} :
    outcome (view.inferior.readExactly address length) context = .ok bytes ↔
      view.image.read address length = .ok bytes ∧ (bytes.length : Int) = length := by
  have hscene : view.host = (context.scene 0).host := hv
  have hread := (Finds.readMemory hscene address length).outcome_eq rfl
  rw [if_pos hb] at hread
  rw [Inferior.readExactly, outcome_bind, outcome_relabel, hread]
  cases view.image.read address length with
  | error reason => simp
  | ok given =>
    by_cases hl : (given.length : Int) = length
    · simpa [hl] using fun h : given = bytes => h ▸ hl
    · simpa [hl] using fun h : given = bytes => h ▸ hl

/-- With the bindings loaded, a reader inverts the encoding of the image that it reads. -/
theorem reader_inverts_encoding (hv : view.host = context.host) (hb : view.host.bindings) :
    (view.inferior.readerOfSize view.kept).InvertsEncoding view.image context := by
  have hscene : view.host = (context.scene 0).host := hv
  have hword (address : Int) :
      outcome ((view.inferior.readerOfSize view.kept).readWord address) context =
        (view.finding (view.pointerLoad address) address view.kept).outcome :=
    (Finds.word hscene address).outcome_eq rfl
  have helement (base index : Int) :
      outcome ((view.inferior.readerOfSize view.kept).readAddressAt base index) context =
        (view.finding (view.pointerLoad (base + index * view.image.wordSize))
          (base + index * view.kept) view.kept).outcome :=
    (Finds.element hscene base index).outcome_eq rfl
  have hspells (address value : Int) {width : Nat} (hs : view.image.wordSize = width)
      (hw : width = 4 ∨ width = 8) :
      outcome ((view.inferior.readerOfSize view.kept).readWord address) context = .ok value ↔
        view.image.Spells width address value := by
    rw [hword, view.pointerLoad_of_wordSize hs hw, view.finding_spells hb]
  constructor
  case uint32 =>
    intro address value
    rw [(Finds.uint32 hscene address).outcome_eq rfl]
    exact view.finding_spells hb
  case uint64 =>
    intro address value
    rw [(Finds.uint64 hscene address).outcome_eq rfl]
    exact view.finding_spells hb
  case word => exact fun address value => hspells address value
  case decoded =>
    intro address value hsize
    obtain ⟨width, hs, hw⟩ : ∃ width : Nat, view.image.wordSize = width ∧
        (width = 4 ∨ width = 8) := by
      rcases hsize with h | h
      · exact ⟨4, h, .inl rfl⟩
      · exact ⟨8, h, .inr rfl⟩
    rw [hspells address value hs hw, Image.spells_iff, hs]
    simp only [Inferior.readerOfSize, readExactly_eq_ok_iff hv hb, Int.natCast_inj, and_assoc]
  case element =>
    intro base index hkept
    have hsize : view.pointerSize = view.kept := hkept.symm
    rw [Finds.element hscene base index context rfl, Finds.word hscene _ context rfl, element,
      word, hsize]
    rfl
  case odd =>
    intro address _ h8
    rw [hword]
    exact view.pointer_of_odd_size hb h8
  case oddElement =>
    intro base index _ h8
    rw [helement]
    exact view.pointer_of_odd_size hb h8
  case targetless =>
    intro address value hno
    have hs : view.image.wordSize = (8 : Nat) := by simp [Image.wordSize, hno]
    have horder : view.image.wordOrder = .little := by simp [Image.wordOrder, hno]
    rw [hspells address value hs (.inr rfl), Image.Spells]
    simp only [Image.holds_iff, horder, Nat.reduceMul]

end View

def narrowImage : Image where
  pointerSize := 4
  byteOrder := .big
  memory := ⟨[.write 0x1000 (ByteOrder.big.encode 4 0xcafe)]⟩

theorem readWord_of_narrowImage :
    outcome ((Inferior.readerOfSize ⟨0, ⟨some 0⟩⟩ 4).readWord 0x1000)
      { host := { images := [narrowImage] } } = .ok 0xcafe := by
  let view : View := ⟨⟨0, ⟨some 0⟩⟩, 4, { images := [narrowImage] }⟩
  let context : Context := { host := view.host }
  have hreads : (view.inferior.readerOfSize view.kept).InvertsEncoding view.image context :=
    View.reader_inverts_encoding rfl rfl
  have hspells : narrowImage.Spells 4 0x1000 0xcafe :=
    ⟨⟨rfl, nofun⟩, 0xcafe, rfl, by decide, rfl⟩
  exact (hreads.word 0x1000 0xcafe rfl (.inl rfl)).2 hspells

/-- A process with addresses of 16 bytes, of which a read gives no more than four. -/
def wideImage : Image where
  pointerSize := 16
  memory := ⟨[.write 0x1000 (ByteOrder.little.encode 16 7)]⟩
  short := [(0x1000, 4)]

/-- Not every read of a word is a fault where words are neither of 4 nor of 8 bytes. -/
theorem not_fault_of_every_odd_word :
    ¬ ∀ (view : View) (context : Context) (address : Int), view.host = context.host →
      view.host.bindings → view.image.wordSize ≠ 4 → view.image.wordSize ≠ 8 →
        ∃ cause, outcome ((view.inferior.readerOfSize view.kept).readWord address) context =
          .error (.unavailable address view.kept (some cause)) := by
  intro h
  let view : View := ⟨⟨0, ⟨some 0⟩⟩, 16, { images := [wideImage] }⟩
  obtain ⟨cause, hfault⟩ := h view { host := view.host } 0x1000 rfl rfl (by decide) (by decide)
  have hword : outcome ((view.inferior.readerOfSize view.kept).readWord 0x1000)
    { host := view.host } = .ok 7 := rfl
  cases hword.symm.trans hfault

end HeapProbe
