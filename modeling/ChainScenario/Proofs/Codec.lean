import ChainScenario.Token.Store
import Mathlib.Data.List.Induction

/-!
# Stored holdings are read back

A value that was written is read back from the front of a byte string, whatever follows it, as long as
its lengths are numbers of 64 bits. Main statements: `codec_lossless`, and `fits_of_holding`, which
says that a holding that was read can be written again.
-/
namespace ChainScenario

namespace Bytes

theorem length_ofNat_le {value width : Nat} (below : value < capacity width) :
    (ofNat value).length ≤ width := by
  induction width generalizing value with
  | zero =>
    obtain rfl : value = 0 := Nat.lt_one_iff.1 below
    simp [ofNat]
  | succ width ih =>
    rw [ofNat]
    split
    · simp
    · have fewer := ih (Nat.div_lt_of_lt_mul below)
      simp only [List.length_append, List.length_singleton]
      omega

theorem toNat_lt (bytes : Bytes) : toNat bytes < capacity bytes.length := by
  induction bytes using List.reverseRecOn with
  | nil => exact Nat.zero_lt_one
  | append_singleton front last ih =>
    have byte := last.toNat_lt
    rw [toNat_append_singleton, List.length_append, List.length_singleton, capacity]
    omega

theorem capacity_pos (width : Nat) : 0 < capacity width := by
  induction width with
  | zero => exact Nat.zero_lt_one
  | succ width ih =>
    rw [capacity]
    omega

theorem capacity_mono {width other : Nat} (fewer : width ≤ other) :
    capacity width ≤ capacity other := by
  induction fewer with
  | refl => exact Nat.le_refl _
  | step _ ih =>
    rw [capacity]
    omega

theorem capacity_add (width other : Nat) :
    capacity (width + other) = capacity width * capacity other := by
  induction other with
  | zero => exact (Nat.mul_one _).symm
  | succ other ih => rw [← Nat.add_assoc, capacity, capacity, ih, Nat.mul_left_comm]

theorem add_lt_capacity {first second width : Nat} (one : first < capacity width)
    (other : second < capacity width) : first + second < capacity (width + 1) := by
  rw [capacity]
  omega

/-- A number that is not greater takes no more bytes. -/
theorem length_ofNat_mono {value other : Nat} (below : value ≤ other) :
    (ofNat value).length ≤ (ofNat other).length := by
  -- The greater number is below the capacity of its own bytes, and so is the smaller one.
  have bound := toNat_lt (ofNat other)
  rw [toNat_ofNat] at bound
  exact length_ofNat_le (Nat.lt_of_le_of_lt below bound)

theorem length_ofNat_toNat (bytes : Bytes) : (ofNat (toNat bytes)).length ≤ bytes.length :=
  length_ofNat_le (toNat_lt bytes)

end Bytes

namespace Token

namespace Codec

variable {α β : Type}

theorem bind_apply (first : Reader α) (next : α → Reader β) (input : Bytes) :
    (first >>= next) input = (first input).bind fun read => next read.1 read.2 := rfl

/-! ## Values that were written are read -/

/-- A reader takes a value off the front of its bytes, whatever follows them. -/
def Reads (reader : Reader α) (written : Bytes) (value : α) : Prop :=
  ∀ suffix, reader (written ++ suffix) = some (value, suffix)

theorem Reads.bind {first : Reader α} {next : α → Reader β} {front back : Bytes} {given : α}
    {value : β} (head : Reads first front given) (tail : Reads (next given) back value) :
    Reads (first >>= next) (front ++ back) value := by
  intro suffix
  rw [bind_apply, List.append_assoc, head]
  exact tail suffix

theorem reads_pure (value : α) : Reads (pure value) [] value := fun _ => rfl

theorem reads_number (value : UInt64) : Reads number (Varint.write value.toNat) value :=
  Varint.read_write value

/-- A length is read if that many bytes follow. -/
theorem length_write {count : Nat} {rest : Bytes} (small : count < UInt64.size)
    (room : count ≤ rest.length) :
    Codec.length (Varint.write count ++ rest) = some (count, rest) := by
  have same : (UInt64.ofNat count).toNat = count := UInt64.toNat_ofNat_of_lt' small
  -- The count survives the conversion to 64 bits because it is small.
  have read := reads_number (UInt64.ofNat count) rest
  rw [same] at read
  rw [Codec.length, bind_apply, read]
  change (if (UInt64.ofNat count).toNat ≤ rest.length then
    (pure (UInt64.ofNat count).toNat : Reader Nat) else failure) rest = _
  rw [same, if_pos room]
  rfl

theorem write_ne_nil (value : Nat) : Varint.write value ≠ [] := by
  rw [Varint.write]
  split <;> simp

theorem reads_bytes {bytes : Bytes} (short : bytes.length < UInt64.size) :
    Reads Codec.bytes (writeBytes bytes) bytes := by
  intro suffix
  have counted : Codec.length (Varint.write bytes.length ++ (bytes ++ suffix)) =
      some (bytes.length, bytes ++ suffix) := length_write short (by simp)
  rw [Codec.bytes, bind_apply, writeBytes, List.append_assoc, counted]
  change some ((bytes ++ suffix).take bytes.length, (bytes ++ suffix).drop bytes.length) = _
  rw [List.take_left, List.drop_left]

theorem reads_byteStrings {items : List Bytes} (short : ∀ item ∈ items, item.length < UInt64.size) :
    Reads (byteStrings items.length) (items.flatMap writeBytes) items := by
  induction items with
  | nil => exact reads_pure []
  | cons item rest ih =>
    have others := ih fun other member => short other (List.mem_cons_of_mem _ member)
    have first := reads_bytes (short item List.mem_cons_self)
    rw [List.flatMap_cons, ← List.append_nil (rest.flatMap writeBytes)]
    exact first.bind (others.bind (reads_pure (item :: rest)))

theorem length_le_flatMap (items : List Bytes) :
    items.length ≤ (items.flatMap writeBytes).length := by
  induction items with
  | nil => simp
  | cons item rest ih =>
    -- Every entry takes at least the byte of its length.
    have filled : 0 < (Varint.write item.length).length :=
      List.length_pos_iff.2 (write_ne_nil _)
    simp only [List.flatMap_cons, List.length_append, List.length_cons, writeBytes]
    omega

theorem reads_byteList {items : List Bytes} (few : items.length < UInt64.size)
    (short : ∀ item ∈ items, item.length < UInt64.size) :
    Reads byteList (writeList items) items := by
  intro suffix
  have room : items.length ≤ (items.flatMap writeBytes ++ suffix).length := by
    have fewer := length_le_flatMap items
    rw [List.length_append]
    omega
  have counted := length_write few room
  rw [byteList, bind_apply, writeList, List.append_assoc, counted]
  exact reads_byteStrings short suffix

end Codec

open Codec

/-! ## Holdings -/

/-- All lengths inside metadata are numbers of 64 bits. -/
structure Metadata.Fits (metadata : Metadata) : Prop where
  name : metadata.name.length < UInt64.size
  creator : metadata.creator.length < UInt64.size
  hash : metadata.hash.length < UInt64.size
  uris : metadata.uris.length < UInt64.size
  uri : ∀ uri ∈ metadata.uris, uri.length < UInt64.size
  attributes : metadata.attributes.length < UInt64.size

/-- All lengths inside a holding are numbers of 64 bits. -/
structure Holding.Fits (holding : Holding) : Prop where
  value : (Bytes.ofNat holding.value).length < UInt64.size
  properties : holding.properties.length < UInt64.size
  metadata : ∀ metadata, holding.metadata = some metadata → metadata.Fits

theorem reads_metadata {metadata : Metadata} (fits : metadata.Fits) :
    Reads Metadata.reader metadata.write metadata := by
  have written : metadata.write = Varint.write metadata.nonce.toNat ++
      (writeBytes metadata.name ++ (writeBytes metadata.creator ++
        (Varint.write metadata.royalties.toUInt64.toNat ++ (writeBytes metadata.hash ++
          (writeList metadata.uris ++ (writeBytes metadata.attributes ++ [])))))) := by
    simp [Metadata.write]
  -- Royalties are read with 64 bits and cut to 32, where they came from.
  have royalties : UInt32.ofNat (min metadata.royalties.toUInt64.toNat (UInt32.size - 1)) =
      metadata.royalties := by
    have below := metadata.royalties.toNat_lt
    have least : min metadata.royalties.toNat (UInt32.size - 1) = metadata.royalties.toNat :=
      Nat.min_eq_left (Nat.le_pred_of_lt below)
    rw [UInt32.toNat_toUInt64, least, UInt32.ofNat_toNat]
  have built : Reads (pure ⟨metadata.nonce, metadata.name, metadata.creator,
      UInt32.ofNat (min metadata.royalties.toUInt64.toNat (UInt32.size - 1)), metadata.hash,
      metadata.uris, metadata.attributes⟩) [] metadata := by
    rw [royalties]
    exact reads_pure metadata
  rw [written]
  exact (reads_number _).bind ((reads_bytes fits.name).bind ((reads_bytes fits.creator).bind
    ((reads_number _).bind ((reads_bytes fits.hash).bind ((reads_byteList fits.uris fits.uri).bind
      ((reads_bytes fits.attributes).bind built))))))

theorem reads_lift {α : Type} (value : α) : Reads (liftM (some value)) [] value := fun _ => rfl

theorem reads_map {α β : Type} {reader : Codec.Reader α} {written : Bytes} {value : α}
    (read : Reads reader written value) (f : α → β) : Reads (f <$> reader) written (f value) := by
  intro suffix
  change (reader (written ++ suffix)).bind (fun read => some (f read.1, read.2)) = _
  rw [read]
  rfl

theorem reads_code (kind : Kind) :
    Reads number (Varint.write kind.code) (UInt64.ofNat kind.code) := by
  cases kind with
  | fungible => exact reads_number 0
  | nonFungible => exact reads_number 1

/-- A holding that was written is read back, whatever follows it. -/
theorem reads_holding {holding : Holding} (fits : holding.Fits) :
    Reads Holding.reader holding.write holding := by
  -- Only two codes are written, and both are known.
  have kind : Reads (liftM (Kind.ofCode? (UInt64.ofNat holding.kind.code).toNat)) []
      holding.kind := by
    cases holding.kind <;> exact reads_lift _
  have built : Reads (pure ⟨holding.kind, Bytes.toNat (Bytes.ofNat holding.value),
      holding.properties, holding.metadata⟩) [] holding := by
    rw [Bytes.toNat_ofNat]
    exact reads_pure holding
  cases described : holding.metadata with
  | none =>
    have written : holding.write = Varint.write holding.kind.code ++ ([] ++
        (writeBytes (Bytes.ofNat holding.value) ++ (writeBytes holding.properties ++
          (Varint.write (0 : UInt64).toNat ++ ([] ++ []))))) := by
      simp [Holding.write, described]
    rw [written]
    rw [described] at built
    exact (reads_code _).bind (kind.bind ((reads_bytes fits.value).bind
      ((reads_bytes fits.properties).bind ((reads_number 0).bind ((reads_pure none).bind built)))))
  | some metadata =>
    have written : holding.write = Varint.write holding.kind.code ++ ([] ++
        (writeBytes (Bytes.ofNat holding.value) ++ (writeBytes holding.properties ++
          (Varint.write (1 : UInt64).toNat ++ (metadata.write ++ []))))) := by
      simp [Holding.write, described]
    -- A flag of one announces the metadata, a flag of zero ends the holding.
    have inner := reads_map (reads_metadata (fits.metadata metadata described)) some
    rw [written]
    rw [described] at built
    exact (reads_code _).bind (kind.bind ((reads_bytes fits.value).bind
      ((reads_bytes fits.properties).bind ((reads_number 1).bind (inner.bind built)))))

theorem Holding.write_ne_nil (holding : Holding) : holding.write ≠ [] := by
  intro empty
  simp only [Holding.write, List.append_eq_nil_iff] at empty
  exact Codec.write_ne_nil _ empty.1.1.1

theorem writeRoles_ne_nil (roles : List Bytes) : writeRoles roles ≠ [] := by
  intro empty
  rw [writeRoles, writeList, List.append_eq_nil_iff] at empty
  exact Codec.write_ne_nil _ empty.1

theorem readAll_of_reads {α : Type} {reader : Codec.Reader α} {written : Bytes} {value : α}
    (reads : Reads reader written value) : readAll reader written = .ok value := by
  have read := reads []
  rw [List.append_nil] at read
  rw [readAll, read]

theorem readAll_write {holding : Holding} (fits : holding.Fits) :
    readAll Holding.reader holding.write = .ok holding :=
  readAll_of_reads (reads_holding fits)

/-! ## Roles -/

theorem reads_roles {roles : List Bytes} (few : roles.length < UInt64.size)
    (short : ∀ role ∈ roles, role.length < UInt64.size) :
    Reads rolesReader (writeRoles roles) roles :=
  reads_byteList few short

/-- Nothing is lost in storage: holdings and role lists whose lengths are numbers of 64 bits are read
back from the front of a byte string, and what follows them is left over. -/
theorem codec_lossless {holding : Holding} (fits : holding.Fits) {roles : List Bytes}
    (few : roles.length < UInt64.size) (short : ∀ role ∈ roles, role.length < UInt64.size)
    (suffix : Bytes) :
    Holding.reader (holding.write ++ suffix) = some (holding, suffix) ∧
      rolesReader (writeRoles roles ++ suffix) = some (roles, suffix) := by
  constructor
  · exact reads_holding fits suffix
  · exact reads_roles few short suffix

/-- A frozen instance with a number of two bytes, an empty hash and an empty link. -/
def postcard : Holding where
  kind := .nonFungible
  value := 1000
  properties := [1]
  metadata := some ⟨300, [112], List.replicate 32 7, 2500, [], [[119, 46, 97], []], [0x80]⟩

/-- The instance and a list with an empty role are read back, and two bytes are left over that look like
the start of another value. -/
theorem codec_lossless_postcard : postcard.Fits ∧
    Holding.reader (postcard.write ++ [1, 0]) = some (postcard, [1, 0]) ∧
      rolesReader (writeRoles [[], [114]] ++ [1, 0]) = some ([[], [114]], [1, 0]) := by
  have fits : postcard.Fits := by
    refine ⟨by decide +kernel, by decide +kernel, ?_⟩
    rintro _ ⟨⟩
    exact ⟨by decide, by decide, by decide, by decide, by decide, by decide⟩
  exact ⟨fits, codec_lossless fits (by decide) (by decide) [1, 0]⟩

/-! ## Values that were read can be written -/

namespace Codec

variable {α β : Type}

theorem some_bind {first : Reader α} {next : α → Reader β} {input : Bytes} {read : β × Bytes} :
    (first >>= next) input = some read ↔
      ∃ given middle, first input = some (given, middle) ∧ next given middle = some read := by
  rw [bind_apply, Option.bind_eq_some_iff]
  constructor
  · rintro ⟨⟨given, middle⟩, taken, rest⟩
    exact ⟨given, middle, taken, rest⟩
  · rintro ⟨given, middle, taken, rest⟩
    exact ⟨(given, middle), taken, rest⟩

@[simp] theorem some_pure {value : α} {input : Bytes} {read : α × Bytes} :
    (pure value : Reader α) input = some read ↔ (value, input) = read := by
  change some (value, input) = some read ↔ _
  rw [Option.some.injEq]

theorem some_lift {given : Option α} {input : Bytes} {value : α} {rest : Bytes}
    (read : (liftM given : Reader α) input = some (value, rest)) : rest = input := by
  cases given with
  | none => cases read
  | some value =>
    cases read
    rfl

@[simp] theorem some_failure {input : Bytes} {read : α × Bytes} :
    (failure : Reader α) input = some read ↔ False := by
  change none = some read ↔ _
  simp

theorem shorter_of_readFrom {position value : Nat} {input rest : Bytes}
    (read : Varint.readFrom position input = some (value, rest)) : rest.length ≤ input.length := by
  induction input generalizing position value with
  | nil => simp [Varint.readFrom] at read
  | cons byte tail ih =>
    simp only [Varint.readFrom] at read
    split at read
    · split at read
      · cases read
      · cases read
        simp
    · split at read
      · cases read
      · obtain ⟨⟨high, last⟩, deeper, same⟩ := Option.map_eq_some_iff.1 read
        cases same
        have shorter := ih deeper
        rw [List.length_cons]
        omega

theorem shorter_of_number {value : UInt64} {input rest : Bytes}
    (read : number input = some (value, rest)) : rest.length ≤ input.length := by
  obtain ⟨⟨_, _⟩, taken, same⟩ := Option.map_eq_some_iff.1 read
  cases same
  exact shorter_of_readFrom taken

theorem small_of_length {count : Nat} {input rest : Bytes}
    (read : Codec.length input = some (count, rest)) :
    count < UInt64.size ∧ count ≤ rest.length ∧ rest.length ≤ input.length := by
  simp only [Codec.length, some_bind] at read
  obtain ⟨value, middle, counted, same, last, got, read⟩ := read
  have shorter := shorter_of_number counted
  cases got
  split at read
  · rename_i room
    cases some_pure.1 read
    exact ⟨value.toNat_lt, room, shorter⟩
  · simp at read

theorem small_of_bytes {value input rest : Bytes} (read : Codec.bytes input = some (value, rest)) :
    value.length < UInt64.size ∧ value.length ≤ input.length ∧ rest.length ≤ input.length := by
  simp only [Codec.bytes, some_bind] at read
  obtain ⟨count, middle, counted, read⟩ := read
  obtain ⟨small, room, shorter⟩ := small_of_length counted
  cases read
  simp only [List.length_take, List.length_drop]
  omega

theorem small_of_byteStrings {count : Nat} {items : List Bytes} {input rest : Bytes}
    (read : byteStrings count input = some (items, rest)) :
    items.length = count ∧ (∀ item ∈ items, item.length < UInt64.size) ∧
      rest.length ≤ input.length := by
  induction count generalizing items input with
  | zero =>
    cases some_pure.1 read
    simp
  | succ count ih =>
    simp only [byteStrings, some_bind] at read
    obtain ⟨item, middle, first, others, last, tail, same⟩ := read
    cases some_pure.1 same
    obtain ⟨small, -, shorter⟩ := small_of_bytes first
    obtain ⟨counted, each, fewer⟩ := ih tail
    refine ⟨by simp [counted], ?_, by omega⟩
    intro other member
    rcases List.mem_cons.1 member with rfl | behind
    · exact small
    · exact each other behind

theorem small_of_byteList {items : List Bytes} {input rest : Bytes}
    (read : byteList input = some (items, rest)) :
    items.length < UInt64.size ∧ items.length ≤ input.length ∧
      (∀ item ∈ items, item.length < UInt64.size) ∧ rest.length ≤ input.length := by
  simp only [byteList, some_bind] at read
  obtain ⟨count, middle, counted, read⟩ := read
  obtain ⟨small, room, shorter⟩ := small_of_length counted
  obtain ⟨same, each, fewer⟩ := small_of_byteStrings read
  exact ⟨by omega, by omega, each, by omega⟩

end Codec

theorem fits_of_metadata {metadata : Metadata} {input rest : Bytes}
    (read : Metadata.reader input = some (metadata, rest)) :
    metadata.Fits ∧ metadata.uris.length ≤ input.length := by
  simp only [Metadata.reader, some_bind] at read
  obtain ⟨nonce, _, first, name, _, second, creator, _, third, royalties, _, fourth, hash, _, fifth, uris,
    _, sixth, attributes, _, last, built⟩ := read
  have one := shorter_of_number first
  have two := small_of_bytes second
  have three := small_of_bytes third
  have four := shorter_of_number fourth
  have five := small_of_bytes fifth
  have six := small_of_byteList sixth
  have seven := small_of_bytes last
  cases some_pure.1 built
  exact ⟨⟨two.1, three.1, five.1, six.1, six.2.2.1, seven.1⟩, by dsimp only; omega⟩

/-- A holding that was read can be written again, and is no greater than its bytes allow. -/
theorem fits_of_holding {holding : Holding} {input rest : Bytes}
    (read : Holding.reader input = some (holding, rest)) :
    holding.Fits ∧ holding.value < Bytes.capacity input.length ∧
      ∀ metadata, holding.metadata = some metadata → metadata.uris.length ≤ input.length := by
  simp only [Holding.reader, some_bind] at read
  obtain ⟨code, _, first, kind, _, known, value, _, third, properties, _, fourth, flag, behind, fifth,
    read⟩ := read
  have one := shorter_of_number first
  obtain rfl := some_lift known
  have two := small_of_bytes third
  have three := small_of_bytes fourth
  have four := shorter_of_number fifth
  -- Written again, the amount takes no more bytes than it was read from.
  have short := Nat.lt_of_le_of_lt (Bytes.length_ofNat_toNat value) two.1
  have below := Nat.lt_of_lt_of_le (Bytes.toNat_lt value)
    (Bytes.capacity_mono (Nat.le_trans two.2.1 one))
  -- The flag decides whether metadata follows: none, some, or no holding at all.
  generalize flag.toNat = number at read
  rcases number with _ | _ | number <;> obtain ⟨described, _, describes, built⟩ := some_bind.1 read
  · cases some_pure.1 describes
    cases some_pure.1 built
    exact ⟨⟨short, three.1, by simp⟩, below, by simp⟩
  · obtain ⟨⟨metadata, _⟩, reads, same⟩ := Option.bind_eq_some_iff.1 describes
    obtain ⟨fits, few⟩ := fits_of_metadata reads
    cases same
    cases some_pure.1 built
    refine ⟨⟨short, three.1, ?_⟩, below, ?_⟩
    · rintro _ ⟨⟩
      exact fits
    · rintro _ ⟨⟩
      omega
  · simp at describes

end Token
end ChainScenario
