import Typxen.Sha256.Portable

/-! # The portable provider computes SHA-256

A block is compressed as the standard says, and between calls the context
holds the chain of the whole blocks absorbed so far and, in its buffer, what
is left over. -/

namespace Typxen.Sha256

open ByteString

/-! ## One block -/

theorem readU32Be_eq_wordAt (block : Vector UInt8 64) (index : Fin 16) :
    readU32Be block (index.val * 4) = Fips180.wordAt block index := by
  have second := block[4 * index.val + 1].toNat_lt
  have third := block[4 * index.val + 2].toNat_lt
  have fourth := block[4 * index.val + 3].toNat_lt
  have places : index.val * 4 = 4 * index.val := Nat.mul_comm ..
  rw [← UInt32.toNat_inj, readU32Be, places,
    getElem!_pos block _ (by omega), getElem!_pos block _ (by omega),
    getElem!_pos block _ (by omega), getElem!_pos block _ (by omega)]
  simp only [UInt32.toNat_or, UInt32.toNat_shiftLeft, UInt8.toNat_toUInt32,
    UInt32.reduceToNat, Nat.reduceMod]
  rw [shifted_mod _ 24 32 (UInt8.toNat_lt _) (by decide),
    shifted_mod _ 16 32 second (by decide),
    shifted_mod _ 8 32 third (by decide), or_four_shifted second third fourth,
    Fips180.wordAt, UInt32.toNat_ofNat', Nat.mod_eq_of_lt]
  have first := block[4 * index.val].toNat_lt
  omega

theorem set_getElem! {α : Type} [Inhabited α] {size : Nat}
    (values : Vector α size) (index : Nat) (value : α) (position : Nat) :
    (values.set! index value)[position]! =
      if index = position ∧ position < size then value else values[position]! := by
  by_cases within : position < size
  · rw [getElem!_pos (values.set! index value) position within,
      getElem!_pos values position within]
    simp [Vector.getElem_set!, within]
  · rw [getElem!_neg (values.set! index value) position within,
      getElem!_neg values position within]
    simp [within]

theorem loadWords_getElem! (block : Vector UInt8 64) (words : Vector UInt32 64)
    (count : Nat) (within : count ≤ 16) {index : Nat} (done : index < count) :
    ((List.range count).foldl (loadWord block) words)[index]! =
      Fips180.schedule block index := by
  induction count with
  | zero => omega
  | succ count induction =>
      rw [List.range_succ, List.foldl_append, List.foldl_cons, List.foldl_nil,
        loadWord, set_getElem!]
      by_cases last : count = index
      · subst last
        rw [if_pos ⟨rfl, by omega⟩, Fips180.schedule, dif_pos (by omega)]
        exact readU32Be_eq_wordAt block ⟨count, by omega⟩
      · rw [if_neg (fun both => last both.1)]
        exact induction (by omega) (by omega)

theorem extendWord_getElem! (block : Vector UInt8 64)
    (words : Vector UInt32 64) (next : Nat) (lower : 16 ≤ next)
    (upper : next < 64)
    (filled : ∀ index < next, words[index]! = Fips180.schedule block index)
    {index : Nat} (done : index < next + 1) :
    (extendWord words next)[index]! = Fips180.schedule block index := by
  rw [extendWord, set_getElem!]
  by_cases last : next = index
  · subst last
    rw [if_pos ⟨rfl, upper⟩, Fips180.schedule, dif_neg (by omega),
      filled _ (by omega), filled _ (by omega), filled _ (by omega),
      filled _ (by omega)]
    have reversed (w x y z : UInt32) : w + x + y + z = z + y + x + w := by
      ac_rfl
    exact reversed _ _ _ _
  · rw [if_neg (fun both => last both.1)]
    exact filled index (by omega)

theorem extendWords_getElem! (block : Vector UInt8 64)
    (words : Vector UInt32 64) (count : Nat) (within : count ≤ 48)
    (filled : ∀ index < 16, words[index]! = Fips180.schedule block index) :
    ∀ index < 16 + count,
      ((List.range' 16 count).foldl extendWord words)[index]! =
        Fips180.schedule block index := by
  induction count with
  | zero => exact filled
  | succ count induction =>
      intro index done
      rw [List.range'_concat, List.foldl_append, List.foldl_cons,
        List.foldl_nil, Nat.one_mul]
      exact extendWord_getElem! block _ (16 + count) (by omega) (by omega)
        (induction (by omega)) (by omega)

theorem blockWords_getElem! (block : Vector UInt8 64) {index : Nat}
    (within : index < 64) :
    (blockWords block)[index]! = Fips180.schedule block index := by
  rw [blockWords]
  apply extendWords_getElem! block _ 48 (by decide) _ index within
  intro index done
  exact loadWords_getElem! block _ 16 (by decide) done

def Locals.working (locals : Locals) : Fips180.Working :=
  ⟨locals.a, locals.b, locals.c, locals.d, locals.e, locals.f, locals.g,
    locals.h⟩

theorem roundStep_working (words : Vector UInt32 64) (locals : Locals)
    (index : Nat) :
    (roundStep words locals index).working =
      Fips180.round Fips180.roundConstants[index]! words[index]!
        locals.working := rfl

theorem roundSteps_working (block : Vector UInt8 64) (locals : Locals)
    (count : Nat) (within : count ≤ 64) :
    ((List.range count).foldl (roundStep (blockWords block)) locals).working =
      Fips180.rounds (Fips180.schedule block) count locals.working := by
  induction count with
  | zero => rfl
  | succ count induction =>
      rw [Fips180.rounds, List.range_succ, List.foldl_append, List.foldl_append,
        List.foldl_cons, List.foldl_nil, List.foldl_cons, List.foldl_nil,
        roundStep_working, induction (by omega),
        blockWords_getElem! block (by omega), Fips180.rounds]

theorem loadLocals_working (state : Vector UInt32 8) :
    (loadLocals state).working = Fips180.loadWorking state := rfl

theorem addLocals_eq (state : Vector UInt32 8) (locals : Locals) :
    addLocals state locals = Fips180.addWorking locals.working state := by
  simp only [addLocals, Fips180.addWorking, Locals.working, UInt32.add_comm]
  rfl

@[simp] theorem processBlock_totalBytes (context : PortableContext)
    (block : Vector UInt8 64) :
    (processBlock context block).totalBytes = context.totalBytes := rfl

@[simp] theorem processBlock_block (context : PortableContext)
    (block : Vector UInt8 64) :
    (processBlock context block).block = context.block := rfl

/-- Processing a block is the standard's compression. -/
@[simp] theorem processBlock_state (context : PortableContext)
    (block : Vector UInt8 64) :
    (processBlock context block).state =
      Fips180.compress context.state block := by
  rw [processBlock, Fips180.compress, ← loadLocals_working,
    ← roundSteps_working block _ 64 (Nat.le_refl _)]
  exact addLocals_eq _ _

/-! ## Streaming -/

/-- The context holds `message`: the chain of its whole blocks, and the rest
in the buffer. -/
structure Absorbed (context : PortableContext) (message : List UInt8) :
    Prop where
  state : context.state = Fips180.chain message (message.length / 64)
  count : context.blockBytes = message.length % 64
  buffer : ∀ index (within : index < 64), index < message.length % 64 →
    context.block[index] = byteAt message (64 * (message.length / 64) + index)

theorem copyInto_getElem (block : Vector UInt8 64) (offset : Nat)
    (source : List UInt8) (index : Nat) (within : index < 64) :
    (copyInto block offset source)[index] =
      if offset ≤ index ∧ index < offset + source.length then
        source.getD (index - offset) 0
      else
        block[index] := by
  simp [copyInto]

section Streaming

variable {context : PortableContext} {message : List UInt8}

theorem Absorbed.copied (absorbed : Absorbed context message)
    (piece : List UInt8) {index : Nat} (within : index < 64)
    (below : index < message.length % 64 + piece.length) :
    (copyInto context.block context.blockBytes piece)[index] =
      byteAt (message ++ piece) (64 * (message.length / 64) + index) := by
  have split := Nat.div_add_mod message.length 64
  rw [copyInto_getElem, absorbed.count]
  by_cases old : index < message.length % 64
  · rw [if_neg (by omega), absorbed.buffer index within old, byteAt, byteAt,
      List.getD_append _ _ _ _ (by omega)]
  · rw [if_pos (by omega), byteAt, List.getD_append_right _ _ _ _ (by omega)]
    congr 1
    omega

theorem Absorbed.short (absorbed : Absorbed context message)
    {piece : List UInt8} {copy : Nat} (size : piece.length = copy)
    (fits : context.blockBytes + copy < 64) :
    Absorbed { context with
      block := copyInto context.block context.blockBytes piece
      blockBytes := context.blockBytes + copy } (message ++ piece) := by
  have count := absorbed.count
  have quotient : (message ++ piece).length / 64 = message.length / 64 := by
    rw [List.length_append]
    omega
  have remainder : (message ++ piece).length % 64 =
      message.length % 64 + piece.length := by
    rw [List.length_append]
    omega
  constructor
  · rw [quotient, Fips180.chain_append _ _ (by omega)]
    exact absorbed.state
  · rw [remainder, ← count, size]
  · intro index within below
    rw [remainder] at below
    rw [quotient]
    exact absorbed.copied piece within below

theorem Absorbed.full (absorbed : Absorbed context message)
    {piece : List UInt8} {copy : Nat} (size : piece.length = copy)
    (fills : context.blockBytes + copy = 64) :
    Absorbed { processBlock { context with
        block := copyInto context.block context.blockBytes piece
        blockBytes := context.blockBytes + copy }
        (copyInto context.block context.blockBytes piece) with
      blockBytes := 0 } (message ++ piece) := by
  have count := absorbed.count
  have quotient : (message ++ piece).length / 64 = message.length / 64 + 1 := by
    rw [List.length_append]
    omega
  have remainder : (message ++ piece).length % 64 = 0 := by
    rw [List.length_append]
    omega
  have whole : copyInto context.block context.blockBytes piece =
      block (message ++ piece) (64 * (message.length / 64)) 64 := by
    apply Vector.ext
    intro index within
    rw [block_getElem]
    exact absorbed.copied piece within (by omega)
  constructor
  · rw [quotient, Fips180.chain, Fips180.chain_append _ _ (by omega), ← whole,
      ← absorbed.state]
    exact processBlock_state _ _
  · exact remainder.symm
  · intro index within below
    omega

end Streaming

/-- The loop absorbs the data it is given. The induction follows the loop. -/
theorem consume_absorbed (context : ReadyContext) (data message : List UInt8)
    (absorbed : Absorbed context.toPortableContext message) :
    Absorbed (consume context data).toPortableContext (message ++ data) ∧
      (consume context data).totalBytes = context.totalBytes := by
  fun_induction consume context data generalizing message with
  | case1 context data more available copy block blockBytes full processed
      induction =>
      have size : (data.take copy).length = copy := by
        rw [List.length_take]
        simp only [copy, available]
        split
        · omega
        · omega
      have rest := induction (message ++ data.take copy)
        (absorbed.full size full)
      rw [List.append_assoc, List.take_append_drop] at rest
      exact rest
  | case2 context data more available copy block blockBytes short induction =>
      have within := context.within
      have size : (data.take copy).length = copy := by
        rw [List.length_take]
        simp only [copy, available]
        split
        · omega
        · omega
      have upper : copy ≤ available := by
        simp only [copy]
        split
        · omega
        · exact Nat.le_refl _
      have fits : context.blockBytes + copy < 64 := by
        have unequal : context.blockBytes + copy ≠ 64 := short
        simp only [available] at upper
        omega
      have rest := induction (message ++ data.take copy)
        (absorbed.short size fits)
      rw [List.append_assoc, List.take_append_drop] at rest
      exact rest
  | case3 context data none =>
      have empty : data = [] := by
        rw [← List.length_eq_zero_iff]
        omega
      rw [empty, List.append_nil]
      exact ⟨absorbed, rfl⟩

/-- Every update of a message that stays short enough is accepted. -/
theorem portableUpdate_absorbed {context : ReadyContext}
    {message data : List UInt8}
    (absorbed : Absorbed context.toPortableContext message)
    (total : context.totalBytes.toNat = message.length)
    (small : message.length + data.length < 2 ^ 61) :
    ∃ after, portableUpdate context data = some after ∧
      Absorbed after.toPortableContext (message ++ data) ∧
      after.totalBytes.toNat = (message ++ data).length := by
  have added : (UInt64.ofNat data.length).toNat = data.length := by
    rw [UInt64.toNat_ofNat', Nat.mod_eq_of_lt (by omega)]
  have below : context.totalBytes ≤ 0xffffffffffffffff := by
    rw [UInt64.le_iff_toNat_le]
    simp
    omega
  have room : ¬0xffffffffffffffff - context.totalBytes <
      UInt64.ofNat data.length := by
    rw [UInt64.lt_iff_toNat_lt, UInt64.toNat_sub_of_le _ _ below, added]
    simp
    omega
  have consumed := consume_absorbed
    { context with
      totalBytes := context.totalBytes + UInt64.ofNat data.length }
    data message ⟨absorbed.state, absorbed.count, absorbed.buffer⟩
  refine ⟨_, if_neg room, consumed.1, ?_⟩
  rw [consumed.2, UInt64.toNat_add, added, total, List.length_append]
  omega

theorem portableUpdates_absorbed (fragments : List (List UInt8))
    {context : ReadyContext} {message : List UInt8}
    (absorbed : Absorbed context.toPortableContext message)
    (total : context.totalBytes.toNat = message.length)
    (small : message.length + fragments.flatten.length < 2 ^ 61) :
    ∃ after, fragments.foldlM portableUpdate context = some after ∧
      Absorbed after.toPortableContext (message ++ fragments.flatten) ∧
      after.totalBytes.toNat = (message ++ fragments.flatten).length := by
  induction fragments generalizing context message with
  | nil =>
      rw [List.flatten_nil, List.append_nil]
      exact ⟨context, rfl, absorbed, total⟩
  | cons data rest induction =>
      rw [List.flatten_cons, List.length_append] at small
      have fits : message.length + data.length < 2 ^ 61 := by omega
      rcases portableUpdate_absorbed absorbed total fits with
        ⟨middle, updated, held, count⟩
      rcases induction held count (by rw [List.length_append]; omega) with
        ⟨after, finished, whole, size⟩
      rw [List.append_assoc, ← List.flatten_cons] at whole size
      refine ⟨after, ?_, whole, size⟩
      rw [List.foldlM_cons, updated]
      exact finished

/-! ## Finishing -/

theorem shiftedByte_eq (value : UInt64) {place : Nat} (within : place < 8) :
    (value >>> UInt64.ofNat (place * 8)).toUInt8 =
      UInt8.ofNat (value.toNat / 256 ^ place) := by
  have amount : (UInt64.ofNat (place * 8)).toNat % 64 = 8 * place := by
    rw [UInt64.toNat_ofNat']
    omega
  rw [← UInt8.toNat_inj, UInt64.toNat_toUInt8, UInt64.toNat_shiftRight, amount,
    Nat.shiftRight_eq_div_pow, Nat.pow_mul, UInt8.toNat_ofNat']

theorem storeLengths_getElem (bitLength : UInt64) (block : Vector UInt8 64)
    (count : Nat) (upper : count ≤ 8) (index : Nat) (within : index < 64) :
    ((List.range count).foldl (storeLength bitLength) block)[index] =
      if 63 - index < count then
        UInt8.ofNat (bitLength.toNat / 256 ^ (63 - index))
      else
        block[index] := by
  induction count with
  | zero => rfl
  | succ count induction =>
      rw [List.range_succ, List.foldl_append, List.foldl_cons, List.foldl_nil,
        storeLength, Vector.getElem_set! within, induction (by omega)]
      by_cases here : 63 - count = index
      · have same : 63 - index = count := by omega
        rw [if_pos here, same, if_pos (Nat.lt_succ_self _),
          shiftedByte_eq _ (by omega)]
      · rw [if_neg here]
        by_cases earlier : 63 - index < count
        · rw [if_pos earlier, if_pos (by omega)]
        · rw [if_neg earlier, if_neg (by omega)]

theorem writeU32Be_getElem (value : UInt32) (index : Nat) (within : index < 4) :
    (writeU32Be value)[index] = UInt8.ofNat (value.toNat / 256 ^ (3 - index)) := by
  rw [← UInt8.toNat_inj, UInt8.toNat_ofNat']
  match index with
  | 0 => simp [writeU32Be, Nat.shiftRight_eq_div_pow]
  | 1 => simp [writeU32Be, Nat.shiftRight_eq_div_pow]
  | 2 => simp [writeU32Be, Nat.shiftRight_eq_div_pow]
  | 3 => simp [writeU32Be]

structure Staged (context : PortableContext) (bytes : List UInt8)
    (blocks : Nat) : Prop where
  state : context.state = Fips180.chain bytes blocks
  buffer : ∀ index (within : index < 64), index < context.blockBytes →
    context.block[index] = byteAt bytes (64 * blocks + index)

section Finishing

variable {context : PortableContext} {message bytes : List UInt8} {blocks : Nat}

theorem Staged.process (staged : Staged context bytes blocks)
    {full : Vector UInt8 64}
    (filled : ∀ index (within : index < 64),
      full[index] = byteAt bytes (64 * blocks + index)) :
    (processBlock { context with block := full } full).state =
      Fips180.chain bytes (blocks + 1) := by
  have whole : full = block bytes (64 * blocks) 64 := by
    apply Vector.ext
    intro index within
    rw [filled index within, block_getElem]
  rw [processBlock_state, Fips180.chain, ← whole, ← staged.state]

theorem Staged.zeros_getElem (staged : Staged context bytes blocks)
    {limit : Nat} (upper : limit ≤ 64)
    (zero : ∀ index, context.blockBytes ≤ index → index < limit →
      byteAt bytes (64 * blocks + index) = 0)
    {index : Nat} (below : index < limit) :
    (copyInto context.block context.blockBytes
      (List.replicate (limit - context.blockBytes) 0))[index] =
        byteAt bytes (64 * blocks + index) := by
  rw [copyInto_getElem, List.length_replicate]
  by_cases held : index < context.blockBytes
  · rw [if_neg (by omega)]
    exact staged.buffer index (by omega) held
  · rw [if_pos (by omega), List.getD_replicate _ (by omega),
      zero index (by omega) below]

theorem Absorbed.staged (absorbed : Absorbed context message) :
    Staged (markEnd context) (Fips180.pad message) (message.length / 64) := by
  have split := Nat.div_add_mod message.length 64
  constructor
  · have kept : (markEnd context).state = context.state := by
      simp only [markEnd]
    have within : 64 * (message.length / 64) ≤ message.length := by omega
    rw [kept, absorbed.state, Fips180.pad, List.append_assoc,
      Fips180.chain_append _ _ within]
  · intro index within below
    have below : index < context.blockBytes + 1 := below
    rw [absorbed.count] at below
    have copied := absorbed.copied [0x80] within below
    refine copied.trans ?_
    by_cases old : index < message.length % 64
    · rw [Fips180.pad_message _ (by omega), byteAt,
        List.getD_append _ _ _ _ (by omega), byteAt]
    · have last : 64 * (message.length / 64) + index = message.length := by
        omega
      rw [last, Fips180.pad_marker, byteAt,
        List.getD_append_right _ _ _ _ (Nat.le_refl _), Nat.sub_self]
      rfl

structure Roomy (context : PortableContext) (message : List UInt8)
    (blocks : Nat) : Prop extends
    Staged context (Fips180.pad message) blocks where
  zero : ∀ index, context.blockBytes ≤ index → index < 56 →
    byteAt (Fips180.pad message) (64 * blocks + index) = 0
  last : 64 * blocks + 64 = (Fips180.pad message).length

theorem Absorbed.roomy (absorbed : Absorbed context message) :
    ∃ blocks, Roomy (makeRoom (markEnd context)) message blocks := by
  have split := Nat.div_add_mod message.length 64
  have staged := absorbed.staged
  have count : (markEnd context).blockBytes =
      message.length % 64 + 1 := by
    simp only [markEnd, absorbed.count]
  have length := Fips180.pad_length message
  rw [Fips180.zeroCount] at length
  generalize markEnd context = marked at staged count
  by_cases crowded : marked.blockBytes > 56
  · have zero : ∀ index, marked.blockBytes ≤ index → index < 64 →
        byteAt (Fips180.pad message)
          (64 * (message.length / 64) + index) = 0 := by
      intro index lower upper
      exact Fips180.pad_zero message (by omega) (by omega)
    have processed := staged.process
      fun index within => staged.zeros_getElem (Nat.le_refl _) zero within
    refine ⟨message.length / 64 + 1, ?_⟩
    rw [makeRoom, if_pos crowded]
    exact {
      state := processed
      buffer := fun index _ below => absurd below (Nat.not_lt_zero _)
      zero := fun index _ upper =>
        Fips180.pad_zero message (by omega) (by omega)
      last := by omega }
  · refine ⟨message.length / 64, ?_⟩
    rw [makeRoom, if_neg crowded]
    exact {
      state := staged.state
      buffer := staged.buffer
      zero := fun index lower upper =>
        Fips180.pad_zero message (by omega) (by omega)
      last := by omega }

theorem Roomy.lastBlock_getElem (roomy : Roomy context message blocks)
    {bitLength : UInt64} (bits : bitLength.toNat = 8 * message.length)
    {index : Nat} (within : index < 64) :
    (lastBlock context bitLength)[index] =
      byteAt (Fips180.pad message) (64 * blocks + index) := by
  have last := roomy.last
  rw [lastBlock, storeLengths_getElem _ _ 8 (Nat.le_refl _), bits]
  by_cases tail : 63 - index < 8
  · have place : 64 * blocks + index =
        (Fips180.pad message).length - 8 + (index - 56) := by omega
    have exponent : 7 - (index - 56) = 63 - index := by omega
    rw [if_pos tail, place, Fips180.pad_size message (by omega), exponent]
  · rw [if_neg tail]
    exact roomy.toStaged.zeros_getElem (by decide) roomy.zero (by omega)

end Finishing

theorem digest_eq {state : Vector UInt32 8} {bytes : Fin 32 → UInt8}
    (stored : ∀ index, (within : index < 32) → bytes ⟨index, within⟩ =
      (writeU32Be state[index / 4])[index % 4]) :
    Vector.ofFn bytes = Fips180.digest state := by
  apply Vector.ext
  intro index within
  have word : index / 4 < 8 := by omega
  rw [Vector.getElem_ofFn, stored index within, Fips180.digest,
    Vector.getElem_ofFn, writeU32Be_getElem, getElem!_pos state (index / 4) word]

theorem portableFinish_absorbed {context : ReadyContext}
    {message : List UInt8}
    (absorbed : Absorbed context.toPortableContext message)
    (total : context.totalBytes.toNat = message.length)
    (small : message.length < 2 ^ 61) :
    ∃ after, portableFinish context = some (Fips180.sha256 message, after) := by
  have accepted : ¬context.totalBytes > 0xffffffffffffffff / 8 := by
    rw [gt_iff_lt, UInt64.lt_iff_toNat_lt, total]
    simp
    omega
  have bits : (context.totalBytes * 8).toNat = 8 * message.length := by
    rw [UInt64.toNat_mul, total]
    simp
    omega
  rcases absorbed.roomy with ⟨blocks, roomy⟩
  have finished := roomy.toStaged.process
    fun index within => roomy.lastBlock_getElem bits within
  have all : blocks + 1 = (Fips180.pad message).length / 64 := by
    have last := roomy.last
    omega
  rw [portableFinish, if_neg accepted]
  simp only
  rw [digest_eq fun _ _ => rfl, finished, all]
  exact ⟨_, rfl⟩

/-- Whatever the context held and however the message is split, the portable
provider accepts it and returns its SHA-256 digest. -/
theorem portable_eq_sha256 (prior : PortableContext)
    (fragments : List (List UInt8)) (small : fragments.flatten.length < 2 ^ 61) :
    ∃ context after,
      fragments.foldlM portableUpdate (portableBegin prior) = some context ∧
        portableFinish context =
          some (Fips180.sha256 fragments.flatten, after) := by
  have empty : Absorbed (portableBegin prior).toPortableContext [] := by
    constructor
    · rfl
    · rfl
    · intro index within below
      exact absurd below (Nat.not_lt_zero _)
  rcases portableUpdates_absorbed fragments empty rfl
    (by rw [List.length_nil]; omega) with ⟨context, updated, held, total⟩
  rw [List.nil_append] at held total
  rcases portableFinish_absorbed held total small with ⟨after, finished⟩
  exact ⟨context, after, updated, finished⟩

/-! ## A known digest -/

theorem consume_nil (context : ReadyContext) : consume context [] = context := by
  rw [consume, dif_neg (by decide)]

theorem consume_short (context : ReadyContext) {data : List UInt8}
    (more : 0 < data.length) (fits : context.blockBytes + data.length < 64) :
    consume context data =
      { context with
        block := copyInto context.block context.blockBytes data
        blockBytes := context.blockBytes + data.length
        within := fits } := by
  have copy : (if data.length < 64 - context.blockBytes then data.length
      else 64 - context.blockBytes) = data.length := if_pos (by omega)
  rw [consume, dif_pos more]
  simp only [copy]
  rw [dif_neg (by omega)]
  simp only [List.drop_length, consume_nil, List.take_length]

def usedContext : PortableContext :=
  ⟨Vector.replicate 8 7, 99, Vector.replicate 64 1, 64⟩

def abcContext : ReadyContext where
  state := initialState
  totalBytes := 3
  block := copyInto (copyInto (Vector.replicate 64 0) 0 [0x61]) 1 [0x62, 0x63]
  blockBytes := 3
  within := by decide

theorem abc_updates : [[0x61], [], [0x62, 0x63]].foldlM portableUpdate
    (portableBegin usedContext) = some abcContext := by
  rw [List.foldlM_cons, portableUpdate, if_neg (by decide),
    consume_short _ (by decide) (by decide)]
  rw [Option.bind_eq_bind, Option.bind_some, List.foldlM_cons, portableUpdate,
    if_neg (by decide), consume_nil]
  rw [Option.bind_eq_bind, Option.bind_some, List.foldlM_cons, portableUpdate,
    if_neg (by decide), consume_short _ (by decide) (by decide)]
  rfl

theorem portable_abc : ∃ context after,
    [[0x61], [], [0x62, 0x63]].foldlM portableUpdate
        (portableBegin usedContext) = some context ∧
      portableFinish context = some (
        #v[0xba, 0x78, 0x16, 0xbf, 0x8f, 0x01, 0xcf, 0xea,
          0x41, 0x41, 0x40, 0xde, 0x5d, 0xae, 0x22, 0x23,
          0xb0, 0x03, 0x61, 0xa3, 0x96, 0x17, 0x7a, 0x9c,
          0xb4, 0x10, 0xff, 0x61, 0xf2, 0x00, 0x15, 0xad], after) := by
  rcases portable_eq_sha256 usedContext [[0x61], [], [0x62, 0x63]]
    (by decide) with ⟨context, after, updated, finished⟩
  have reached := Option.some.inj (updated.symm.trans abc_updates)
  have evaluated : (portableFinish abcContext).map Prod.fst = some
      #v[0xba, 0x78, 0x16, 0xbf, 0x8f, 0x01, 0xcf, 0xea,
        0x41, 0x41, 0x40, 0xde, 0x5d, 0xae, 0x22, 0x23,
        0xb0, 0x03, 0x61, 0xa3, 0x96, 0x17, 0x7a, 0x9c,
        0xb4, 0x10, 0xff, 0x61, 0xf2, 0x00, 0x15, 0xad] := by
    decide +kernel
  rw [← reached, finished, Option.map_some] at evaluated
  have digest : Fips180.sha256 [[0x61], [], [0x62, 0x63]].flatten = _ :=
    Option.some.inj evaluated
  exact ⟨context, after, updated, by rw [finished, digest]⟩

end Typxen.Sha256
