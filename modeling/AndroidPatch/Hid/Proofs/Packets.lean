import AndroidPatch.Hid.Proofs.Counters

/-!
# Packets and frames

A device reports the contacts of a frame in one packet or in several: the first one says how many they are
and the others say 0. For a panel whose fingers are laid out alike a packet does the same to the counters
(`FrameCount`) whatever its values are. So it can be said which frames the driver tells apart: it depends on
where in a packet the contact count stands.
-/

namespace AndroidPatch.Hid

/-! ## Panels -/

/-- A usage that is reported for each contact. -/
def Usage.ofContact : Usage → Bool
  | .contactCount => false
  | .other _ => false
  | _ => true

/-- A report of a panel: some fingers with the same usages, and other usages before and after them. The last
    field of the last finger is a field of its own. -/
structure Panel where
  head : List FieldUsage
  /-- all fingers but the last one -/
  fingers : List (List FieldUsage)
  /-- the last finger without its last usage -/
  finger : List FieldUsage
  last : FieldUsage
  tail : List FieldUsage
  alike : ∀ f ∈ fingers, f.map FieldUsage.usage = (finger ++ [last]).map FieldUsage.usage
  nodup : ((finger ++ [last]).map FieldUsage.usage).Nodup
  contactId : ∃ u ∈ finger ++ [last], u.usage = .contactId
  ofContact : ∀ u ∈ finger ++ [last], u.usage.ofContact = true
  touches : ∀ u ∈ finger ++ [last], u.touches = true
  collection : ∀ u ∈ finger ++ [last], u.collectionIndex = last.collectionIndex
  global : ∀ u ∈ head ++ tail, u.usage.ofContact = false
  outside : ∀ u ∈ tail, u.collectionIndex ≠ last.collectionIndex
  field : ∀ u ∈ head ++ fingers.flatten ++ finger ++ tail, u.fieldIndex ≠ last.fieldIndex

namespace Panel

variable (p : Panel)

def inputs : List FieldUsage := p.head ++ p.fingers.flatten ++ (p.finger ++ [p.last]) ++ p.tail

/-- The number of fingers in a packet. -/
def size : Nat := p.fingers.length + 1

end Panel

/-! ## The mapping of a panel -/

theorem mtMapInputs_append (cls : MtClass) (m : Mapping) (us vs : List FieldUsage) :
    (mtMapInputs cls m (us ++ vs)).1 = (mtMapInputs cls (mtMapInputs cls m us).1 vs).1 := by
  induction us generalizing m with
  | nil => rfl
  | cons u us ih => exact ih (mtInputMapping cls m u).1

section Mapping

variable (cls : MtClass) {m : Mapping} {u : FieldUsage} {us : List FieldUsage}

theorem mtInputMapping_touches (htouches : u.touches = true) :
    (mtInputMapping cls m u).1 = (m.mapUsage cls u).1 := by
  unfold FieldUsage.touches at htouches
  unfold mtInputMapping
  cases happlication : u.application with
  | other hid =>
    rw [happlication] at htouches
    cases htouches
  | _ => rfl

/-- A usage of a contact is noted in the collection of the last contact, which a contact id sets. -/
theorem mtInputMapping_ofContact (htouches : u.touches = true) (hofContact : u.usage.ofContact = true)
    (hcollection : m.lastMtCollection = u.collectionIndex ∨ u.usage = .contactId) :
    (mtInputMapping cls m u).1.lastMtCollection = u.collectionIndex ∧
      (mtInputMapping cls m u).1.lastSlotField = u.usage ∧
      (mtInputMapping cls m u).1.lastFieldIndex = u.fieldIndex := by
  rw [mtInputMapping_touches cls htouches]
  by_cases hid : u.usage = .contactId
  · rw [Mapping.mapUsage, hid]
    exact ⟨rfl, hid, rfl⟩
  · have hnoted : (m.mapUsage cls u).1 = m.noteSlotField u := by
      unfold Mapping.mapUsage
      cases husage : u.usage with
      | contactId => exact absurd husage hid
      | contactCount =>
        rw [husage] at hofContact
        cases hofContact
      | other hid =>
        rw [husage] at hofContact
        cases hofContact
      | _ => rfl
    have hin := hcollection.resolve_right hid
    rw [hnoted, Mapping.noteSlotField, if_pos hin]
    exact ⟨hin, rfl, rfl⟩

/-- Other usages outside of it change nothing. -/
theorem mtInputMapping_other (hother : u.touches = false ∨
      u.usage.ofContact = false ∧ m.lastMtCollection ≠ u.collectionIndex) :
    (mtInputMapping cls m u).1 = m := by
  cases htouches : u.touches with
  | false =>
    unfold FieldUsage.touches at htouches
    unfold mtInputMapping
    cases happlication : u.application with
    | other hid => rfl
    | _ =>
      rw [happlication] at htouches
      cases htouches
  | true =>
    obtain ⟨hofContact, houtside⟩ := hother.resolve_left (by rw [htouches]; exact Bool.noConfusion)
    have hnoted : m.noteField u = m := if_neg houtside
    rw [mtInputMapping_touches cls htouches, Mapping.mapUsage]
    cases husage : u.usage with
    | contactCount => exact hnoted
    | other hid =>
      dsimp only
      split
      · exact hnoted
      · split <;> rfl
    | _ =>
      rw [husage] at hofContact
      cases hofContact

theorem mtMapInputs_others (hother : ∀ u ∈ us, u.touches = false ∨
      u.usage.ofContact = false ∧ m.lastMtCollection ≠ u.collectionIndex) :
    (mtMapInputs cls m us).1 = m := by
  induction us with
  | nil => rfl
  | cons u us ih =>
    rw [mtMapInputs_cons, mtInputMapping_other cls (hother u List.mem_cons_self)]
    exact ih fun u' hu' => hother u' (List.mem_cons_of_mem _ hu')

/-- The usages of one contact, with its contact id or after it. -/
theorem mtMapInputs_contact {c : Nat} (htouches : ∀ u ∈ us, u.touches = true)
    (hofContact : ∀ u ∈ us, u.usage.ofContact = true) (hcollection : ∀ u ∈ us, u.collectionIndex = c)
    (hid : m.lastMtCollection = c ∨ ∃ u ∈ us, u.usage = .contactId) :
    (mtMapInputs cls m us).1.lastMtCollection = c := by
  induction us generalizing m with
  | nil => exact hid.resolve_right fun ⟨u, hu, _⟩ => nomatch hu
  | cons u us ih =>
    rw [mtMapInputs_cons]
    refine ih (fun u' hu' => htouches u' (List.mem_cons_of_mem _ hu'))
      (fun u' hu' => hofContact u' (List.mem_cons_of_mem _ hu'))
      (fun u' hu' => hcollection u' (List.mem_cons_of_mem _ hu')) ?_
    have hu := hcollection u List.mem_cons_self
    have hstep := mtInputMapping_ofContact cls (m := m) (htouches u List.mem_cons_self)
      (hofContact u List.mem_cons_self)
    rw [hu] at hstep
    rcases hid with hin | ⟨u', hu', hid⟩
    · exact .inl (hstep (.inl hin)).1
    · rcases List.mem_cons.mp hu' with rfl | hu'
      · exact .inl (hstep (.inr hid)).1
      · exact .inr ⟨u', hu', hid⟩

end Mapping

/-- The last field of a slot and of a report are found, whatever other reports the device has before and
    after. -/
theorem Panel.mapped (p : Panel) (cls : MtClass) (m : Mapping) (before after : List FieldUsage)
    (hafter : ∀ u ∈ after, u.touches = false) :
    (mtMapInputs cls m (before ++ p.inputs ++ after)).1.lastSlotField = p.last.usage ∧
      (mtMapInputs cls m (before ++ p.inputs ++ after)).1.lastFieldIndex = p.last.fieldIndex := by
  have hmem : p.last ∈ p.finger ++ [p.last] := List.mem_append_right _ List.mem_cons_self
  rw [mtMapInputs_append, mtMapInputs_append, Panel.inputs, mtMapInputs_append, mtMapInputs_append]
  generalize (mtMapInputs cls (mtMapInputs cls m before).1 (p.head ++ p.fingers.flatten)).1 = m
  obtain ⟨hin, hslot, hindex⟩ : (mtMapInputs cls m (p.finger ++ [p.last])).1.lastMtCollection =
        p.last.collectionIndex ∧
      (mtMapInputs cls m (p.finger ++ [p.last])).1.lastSlotField = p.last.usage ∧
      (mtMapInputs cls m (p.finger ++ [p.last])).1.lastFieldIndex = p.last.fieldIndex := by
    rw [mtMapInputs_append]
    refine mtInputMapping_ofContact cls (p.touches _ hmem) (p.ofContact _ hmem) ?_
    obtain ⟨u, hu, hid⟩ := p.contactId
    rcases List.mem_append.mp hu with hu | hu
    · refine .inl (mtMapInputs_contact cls (fun u hu => p.touches u (List.mem_append_left _ hu))
        (fun u hu => p.ofContact u (List.mem_append_left _ hu))
        (fun u hu => p.collection u (List.mem_append_left _ hu)) (.inr ⟨u, hu, hid⟩))
    · rw [List.mem_singleton.mp hu] at hid
      exact .inr hid
  generalize (mtMapInputs cls m (p.finger ++ [p.last])).1 = m at hin hslot hindex
  have htail : (mtMapInputs cls m p.tail).1 = m := by
    refine mtMapInputs_others cls fun u hu => .inr ⟨p.global u (List.mem_append_right _ hu), ?_⟩
    rw [hin]
    exact fun heq => p.outside u hu (Int.ofNat_inj.mp heq).symm
  rw [htail, mtMapInputs_others cls fun u hu => .inl (hafter u hu)]
  exact ⟨hslot, hindex⟩

/-! ## Packets -/

/-- The values are those of the usages. -/
def Carries (us : List FieldUsage) (es : List MtEvent) : Prop :=
  es.map (fun e => (e.claimed, e.fieldIndex, e.usage)) = us.map fun u => (true, u.fieldIndex, u.usage)

section Carries

variable {us vs : List FieldUsage} {u : FieldUsage} {es : List MtEvent} {e : MtEvent}

theorem Carries.of_append (h : Carries (us ++ vs) es) :
    ∃ es₁ es₂, es = es₁ ++ es₂ ∧ Carries us es₁ ∧ Carries vs es₂ := by
  unfold Carries at h
  rw [List.map_append, List.map_eq_append_iff] at h
  obtain ⟨es₁, es₂, rfl, h₁, h₂⟩ := h
  exact ⟨es₁, es₂, rfl, h₁, h₂⟩

theorem Carries.of_singleton (h : Carries [u] es) :
    ∃ e, es = [e] ∧ e.claimed = true ∧ e.fieldIndex = u.fieldIndex ∧ e.usage = u.usage := by
  obtain ⟨e, rfl, he⟩ := List.map_eq_singleton_iff.mp h
  exact ⟨e, rfl, congrArg (·.1) he, congrArg (·.2.1) he, congrArg (·.2.2) he⟩

theorem Carries.mem (h : Carries us es) (he : e ∈ es) :
    e.claimed = true ∧ ∃ u ∈ us, e.fieldIndex = u.fieldIndex ∧ e.usage = u.usage := by
  have hmem := List.mem_map_of_mem (f := fun e : MtEvent => (e.claimed, e.fieldIndex, e.usage)) he
  rw [h] at hmem
  obtain ⟨u, hu, heq⟩ := List.mem_map.mp hmem
  simp only [Prod.mk.injEq] at heq
  exact ⟨heq.1.symm, u, hu, heq.2.1.symm, heq.2.2.symm⟩

end Carries

namespace Panel

variable (p : Panel) {es : List MtEvent} {c : FrameCount}

theorem last_ofContact : p.last.usage.ofContact = true :=
  p.ofContact _ (List.mem_append_right _ List.mem_cons_self)

/-- The values before and after the fingers. -/
theorem takeAll_global {us : List FieldUsage} (hus : ∀ u ∈ us, u ∈ p.head ++ p.tail) (h : Carries us es) :
    c.takeAll p.last.usage p.last.fieldIndex es = (⟨c.received, counted c.expected es⟩, 0) := by
  refine FrameCount.takeAll_quiet fun e he => ?_
  obtain ⟨hclaimed, u, hu, hindex, husage⟩ := h.mem he
  have hglobal := p.global u (hus u hu)
  rw [hindex, husage]
  refine ⟨hclaimed, fun hlast => ?_, p.field u ?_⟩
  · rw [hlast, p.last_ofContact] at hglobal
    cases hglobal
  · rcases List.mem_append.mp (hus u hu) with hu | hu
    · simp [hu]
    · simp [hu]

/-- The values of a finger up to its last one. -/
theorem takeAll_finger {us : List FieldUsage}
    (hus : ∀ u ∈ us, u.usage ∈ p.finger.map FieldUsage.usage ∧ u.fieldIndex ≠ p.last.fieldIndex)
    (h : Carries us es) :
    c.takeAll p.last.usage p.last.fieldIndex es = (c, 0) := by
  have hnodup := p.nodup
  rw [List.map_append, List.nodup_append] at hnodup
  have hne : ∀ e ∈ es, (e.claimed = true ∧ e.usage ≠ p.last.usage ∧ e.fieldIndex ≠ p.last.fieldIndex) ∧
      e.usage ≠ .contactCount := by
    intro e he
    obtain ⟨hclaimed, u, hu, hindex, husage⟩ := h.mem he
    obtain ⟨hmem, hfield⟩ := hus u hu
    rw [hindex, husage]
    refine ⟨⟨hclaimed, hnodup.2.2 _ hmem _ (List.mem_singleton.mpr rfl), hfield⟩, fun hcount => ?_⟩
    obtain ⟨v, hv, hvusage⟩ := List.mem_map.mp hmem
    have hofContact := p.ofContact v (List.mem_append_left _ hv)
    rw [hvusage, hcount] at hofContact
    cases hofContact
  rw [FrameCount.takeAll_quiet fun e he => (hne e he).1, counted_of_forall fun e he => (hne e he).2]

/-- The value that ends a slot. -/
theorem take_last {e : MtEvent} (hclaimed : e.claimed = true) (husage : e.usage = p.last.usage) :
    c.take p.last.usage p.last.fieldIndex e =
      if e.fieldIndex = p.last.fieldIndex ∧ c.expected ≤ c.received + 1 then (⟨0, c.expected⟩, 1)
      else (⟨c.received + 1, c.expected⟩, 0) := by
  have hofContact := p.last_ofContact
  rw [← husage] at hofContact
  have hcount : e.usage ≠ .contactCount := by
    intro hcount
    rw [hcount] at hofContact
    cases hofContact
  have hhandled : e.usage.handled = true := by
    cases hother : e.usage with
    | other hid =>
      rw [hother] at hofContact
      cases hofContact
    | _ => rfl
  rw [FrameCount.take, MtEvent.handled, hclaimed, hhandled, Bool.true_and, if_pos rfl,
    expectedAfter_of_ne hcount, if_pos husage]

/-- A finger that is not the last one. -/
theorem takeAll_first {f : List FieldUsage} (hf : f ∈ p.fingers) (h : Carries f es) :
    c.takeAll p.last.usage p.last.fieldIndex es = (⟨c.received + 1, c.expected⟩, 0) := by
  have hfield : ∀ u ∈ f, u.fieldIndex ≠ p.last.fieldIndex := fun u hu =>
    p.field u (by simp [List.mem_flatten_of_mem hf hu])
  have halike := p.alike f hf
  rw [List.map_append, List.map_eq_append_iff] at halike
  obtain ⟨f₀, f₁, rfl, hf₀, hf₁⟩ := halike
  obtain ⟨u, rfl, hu⟩ := List.map_eq_singleton_iff.mp hf₁
  obtain ⟨es₀, es₁, rfl, h₀, h₁⟩ := h.of_append
  obtain ⟨e, rfl, hclaimed, hindex, husage⟩ := h₁.of_singleton
  rw [FrameCount.takeAll_append, p.takeAll_finger (fun v hv => ⟨?_, hfield v (List.mem_append_left _ hv)⟩) h₀]
  · have hne : ¬ e.fieldIndex = p.last.fieldIndex := by
      rw [hindex]
      exact hfield u (List.mem_append_right _ List.mem_cons_self)
    simp [FrameCount.takeAll, p.take_last hclaimed (husage.trans hu), hne]
  · rw [← hf₀]
    exact List.mem_map_of_mem hv

theorem takeAll_fingers {fs : List (List FieldUsage)} (hfs : ∀ f ∈ fs, f ∈ p.fingers)
    (h : Carries fs.flatten es) :
    c.takeAll p.last.usage p.last.fieldIndex es =
      (⟨c.received + UInt8.ofNat fs.length, c.expected⟩, 0) := by
  induction fs generalizing es c with
  | nil =>
    obtain rfl : es = [] := List.map_eq_nil_iff.mp h
    simp [FrameCount.takeAll]
  | cons f fs ih =>
    rw [List.flatten_cons] at h
    obtain ⟨es₁, es₂, rfl, h₁, h₂⟩ := h.of_append
    rw [FrameCount.takeAll_append, p.takeAll_first (hfs f List.mem_cons_self) h₁,
      ih (fun f' hf' => hfs f' (List.mem_cons_of_mem _ hf')) h₂, List.length_cons]
    have hone : c.received + 1 + UInt8.ofNat fs.length = c.received + UInt8.ofNat (fs.length + 1) := by
      rw [UInt8.ofNat_add, UInt8.add_assoc, UInt8.add_comm 1]
      rfl
    exact congrArg (fun r => ((⟨r, c.expected⟩ : FrameCount), 0)) hone

/-- The usages of a finger are not the contact count. -/
theorem fingers_ofContact {u : FieldUsage} (hu : u ∈ p.fingers.flatten ++ (p.finger ++ [p.last])) :
    u.usage ≠ .contactCount := by
  have hlast : ∀ v ∈ p.finger ++ [p.last], v.usage ≠ .contactCount := by
    intro v hv hcount
    have hofContact := p.ofContact v hv
    rw [hcount] at hofContact
    cases hofContact
  rcases List.mem_append.mp hu with hu | hu
  · obtain ⟨f, hf, hu⟩ := List.mem_flatten.mp hu
    have hmem := List.mem_map_of_mem (f := FieldUsage.usage) hu
    rw [p.alike f hf] at hmem
    obtain ⟨v, hv, hvu⟩ := List.mem_map.mp hmem
    rw [← hvu]
    exact hlast v hv
  · exact hlast u hu

/-- The values of all fingers: a frame ends when the contacts expected have been received. -/
theorem takeAll_allFingers (h : Carries (p.fingers.flatten ++ (p.finger ++ [p.last])) es) :
    c.takeAll p.last.usage p.last.fieldIndex es =
      if c.expected ≤ c.received + UInt8.ofNat p.size then (⟨0, c.expected⟩, 1)
      else (⟨c.received + UInt8.ofNat p.size, c.expected⟩, 0) := by
  obtain ⟨es₁, es₂, rfl, h₁, h₂⟩ := h.of_append
  obtain ⟨es₀, es₃, rfl, h₀, h₃⟩ := h₂.of_append
  obtain ⟨e, rfl, hclaimed, hindex, husage⟩ := h₃.of_singleton
  have hsize : c.received + UInt8.ofNat p.fingers.length + 1 = c.received + UInt8.ofNat p.size := by
    rw [size, UInt8.ofNat_add, UInt8.add_assoc]
    rfl
  have hfinger : ∀ u ∈ p.finger, u.usage ∈ p.finger.map FieldUsage.usage ∧
      u.fieldIndex ≠ p.last.fieldIndex :=
    fun u hu => ⟨List.mem_map_of_mem hu, p.field u (by simp [hu])⟩
  rw [FrameCount.takeAll_append, p.takeAll_fingers (fun _ hf => hf) h₁, FrameCount.takeAll_append,
    p.takeAll_finger hfinger h₀, FrameCount.takeAll_cons, p.take_last hclaimed husage, hsize]
  by_cases hends : c.expected ≤ c.received + UInt8.ofNat p.size
  · simp [hindex, hends, FrameCount.takeAll]
  · simp [hindex, hends, FrameCount.takeAll]

/-- The counters after a packet, whose contact count is read before its fingers or after them. -/
theorem takeAll_packet (h : Carries p.inputs es) :
    ∃ hs fs ts, es = hs ++ (fs ++ ts) ∧ Carries p.head hs ∧ Carries p.tail ts ∧ counted c.expected es =
        counted (counted c.expected hs) ts ∧
      c.takeAll p.last.usage p.last.fieldIndex es =
        if counted c.expected hs ≤ c.received + UInt8.ofNat p.size then (⟨0, counted c.expected es⟩, 1)
        else (⟨c.received + UInt8.ofNat p.size, counted c.expected es⟩, 0) := by
  rw [inputs, List.append_assoc p.head, List.append_assoc p.head] at h
  obtain ⟨hs, es₁, rfl, hhead, h₁⟩ := h.of_append
  obtain ⟨fs, ts, rfl, hfs, htail⟩ := h₁.of_append
  have hcount : ∀ e ∈ fs, e.usage ≠ .contactCount := by
    intro e he
    obtain ⟨-, u, hu, -, husage⟩ := hfs.mem he
    rw [husage]
    exact p.fingers_ofContact hu
  have hcounted : counted c.expected (hs ++ (fs ++ ts)) = counted (counted c.expected hs) ts := by
    rw [counted_append, counted_append, counted_of_forall hcount]
  refine ⟨hs, fs, ts, rfl, hhead, htail, hcounted, ?_⟩
  rw [hcounted, FrameCount.takeAll_append, p.takeAll_global (fun u hu => List.mem_append_left _ hu) hhead,
    FrameCount.takeAll_append, p.takeAll_allFingers hfs]
  by_cases hends : counted c.expected hs ≤ c.received + UInt8.ofNat p.size
  · simp only [hends, if_true]
    rw [p.takeAll_global (fun u hu => List.mem_append_right _ hu) htail]
    rfl
  · simp only [hends, if_false]
    rw [p.takeAll_global (fun u hu => List.mem_append_right _ hu) htail]
    rfl

end Panel

/-! ## Frames -/

/-- The contact count of a packet; 0 counts nothing. -/
def Counts (n : UInt8) (es : List MtEvent) : Prop := ∀ x, counted x es = if n = 0 then x else n

namespace Panel

/-- The contact count is not reported after the fingers. -/
def CountFirst (p : Panel) : Prop := ∀ u ∈ p.tail, u.usage ≠ .contactCount

/-- The contact count is not reported before the fingers. -/
def CountLast (p : Panel) : Prop := ∀ u ∈ p.head, u.usage ≠ .contactCount

/-- The packets of a frame: as many as its contacts need, and the first one has their number. -/
structure Frame (p : Panel) where
  contacts : UInt8
  first : List MtEvent
  rest : List (List MtEvent)
  carries : ∀ es ∈ first :: rest, Carries p.inputs es
  contacts_ne : contacts ≠ 0
  counts : Counts contacts first
  counts_zero : ∀ es ∈ rest, Counts 0 es
  needed : rest.length * p.size < contacts.toNat
  enough : contacts.toNat ≤ (rest.length + 1) * p.size

variable {p : Panel}

def Frame.packets (f : p.Frame) : List (List MtEvent) := f.first :: f.rest

/-- What the driver should do: end the frame with its last packet. -/
def Frame.syncs (f : p.Frame) : List Nat := List.replicate f.rest.length 0 ++ [1]

end Panel

namespace FrameCount

variable {last : Usage} {index : Nat} {c : FrameCount}

/-- How many frames each packet ends. -/
def packetSyncs (last : Usage) (index : Nat) (c : FrameCount) : List (List MtEvent) → List Nat
  | [] => []
  | es :: ps => (c.takeAll last index es).2 :: packetSyncs last index (c.takeAll last index es).1 ps

def afterPackets (last : Usage) (index : Nat) (c : FrameCount) (ps : List (List MtEvent)) : FrameCount :=
  ps.foldl (fun c es => (c.takeAll last index es).1) c

theorem packetSyncs_append (ps ps' : List (List MtEvent)) :
    c.packetSyncs last index (ps ++ ps') =
      c.packetSyncs last index ps ++ (c.afterPackets last index ps).packetSyncs last index ps' := by
  induction ps generalizing c with
  | nil => rfl
  | cons es ps ih => exact congrArg (_ :: ·) ih

end FrameCount

/-- How many frames the driver ends with each packet. -/
def MtDevice.packetSyncs (td : MtDevice) : List (List MtEvent) → List Nat
  | [] => []
  | es :: ps => syncs (td.mtEvents es).2 :: (td.mtEvents es).1.packetSyncs ps

/-- The driver ends each frame with the last one of its packets, and no other. -/
def MtDevice.TellsApart {p : Panel} (td : MtDevice) (frames : List p.Frame) : Prop :=
  td.packetSyncs (frames.flatMap Panel.Frame.packets) = frames.flatMap Panel.Frame.syncs

theorem MtDevice.packetSyncs_count (td : MtDevice) (ps : List (List MtEvent)) :
    td.packetSyncs ps = td.count.packetSyncs td.lastSlotField td.lastFieldIndex ps := by
  induction ps generalizing td with
  | nil => rfl
  | cons es ps ih =>
    have hsame := mtEvents_same td es
    rw [packetSyncs, FrameCount.packetSyncs, mtEvents_count td es, ih, hsame.lastSlotField,
      hsame.lastFieldIndex]

namespace Panel

variable {p : Panel} {es : List MtEvent} {c : FrameCount} {n x : UInt8}

theorem counted_of_carries {us : List FieldUsage} (hus : ∀ u ∈ us, u.usage ≠ .contactCount)
    (h : Carries us es) (x : UInt8) : counted x es = x := by
  refine counted_of_forall fun e he => ?_
  obtain ⟨-, u, hu, -, husage⟩ := h.mem he
  rw [husage]
  exact hus u hu

/-- The count stands before the fingers. -/
theorem takeAll_countFirst (hfirst : p.CountFirst) (h : Carries p.inputs es)
    (hx : counted c.expected es = x) :
    c.takeAll p.last.usage p.last.fieldIndex es =
      if x ≤ c.received + UInt8.ofNat p.size then (⟨0, x⟩, 1)
      else (⟨c.received + UInt8.ofNat p.size, x⟩, 0) := by
  obtain ⟨hs, fs, ts, -, -, htail, hcounted, htake⟩ := p.takeAll_packet h (c := c)
  rw [counted_of_carries hfirst htail, hx] at hcounted
  rw [htake, hx, ← hcounted]

/-- The count stands behind the fingers. -/
theorem takeAll_countLast (hlast : p.CountLast) (h : Carries p.inputs es) (hx : counted c.expected es = x) :
    c.takeAll p.last.usage p.last.fieldIndex es =
      if c.expected ≤ c.received + UInt8.ofNat p.size then (⟨0, x⟩, 1)
      else (⟨c.received + UInt8.ofNat p.size, x⟩, 0) := by
  obtain ⟨hs, fs, ts, -, hhead, -, -, htake⟩ := p.takeAll_packet h (c := c)
  rw [htake, hx, counted_of_carries hlast hhead]

/-- The packets of a frame, from the counters in the middle of it: the last one ends it, unless the counter
    overflows. -/
theorem packetSyncs_frame (hfirst : p.CountFirst) (hsize : p.size ≤ 255) {ps : List (List MtEvent)} {k : Nat}
    (hps : ∀ es ∈ ps, Carries p.inputs es)
    (hcount : ∀ es ∈ ps.head?, counted c.expected es = x) (hrest : ∀ es ∈ ps.tail, Counts 0 es)
    (hlength : ps.length = k + 1) (hneeded : c.received.toNat + k * p.size < x.toNat)
    (henough : x.toNat ≤ c.received.toNat + (k + 1) * p.size) :
    (c.received.toNat + (k + 1) * p.size ≤ 255 →
      c.packetSyncs p.last.usage p.last.fieldIndex ps = List.replicate k 0 ++ [1] ∧
        (c.afterPackets p.last.usage p.last.fieldIndex ps).received = 0) ∧
      (255 < c.received.toNat + (k + 1) * p.size →
        c.packetSyncs p.last.usage p.last.fieldIndex ps = List.replicate (k + 1) 0) := by
  have hofNat : (UInt8.ofNat p.size).toNat = p.size := UInt8.toNat_ofNat_of_lt' (Nat.lt_succ_of_le hsize)
  have hx := x.toNat_lt
  induction k generalizing ps c with
  | zero =>
    obtain ⟨es, rfl⟩ := List.length_eq_one_iff.mp hlength
    have htake := takeAll_countFirst hfirst (hps es List.mem_cons_self) (hcount es rfl)
    have hle : x ≤ c.received + UInt8.ofNat p.size ↔ c.received.toNat + p.size ≤ 255 := by
      rw [UInt8.le_iff_toNat_le, UInt8.toNat_add, hofNat]
      omega
    rw [FrameCount.packetSyncs, FrameCount.afterPackets, List.foldl_cons, htake]
    constructor
    · intro hfits
      rw [if_pos (hle.mpr (by omega))]
      exact ⟨rfl, rfl⟩
    · intro hfits
      rw [if_neg fun h => absurd (hle.mp h) (by omega)]
      rfl
  | succ k ih =>
    obtain ⟨es, ps, rfl⟩ : ∃ es ps', ps = es :: ps' := List.exists_cons_of_length_eq_add_one hlength
    have htake := takeAll_countFirst hfirst (hps es List.mem_cons_self) (hcount es rfl)
    have hmul : (k + 1) * p.size = k * p.size + p.size := Nat.succ_mul k p.size
    have hmul' : (k + 1 + 1) * p.size = (k + 1) * p.size + p.size := Nat.succ_mul (k + 1) p.size
    have hreceived : (c.received + UInt8.ofNat p.size).toNat = c.received.toNat + p.size := by
      rw [UInt8.toNat_add, hofNat]
      omega
    have hnot : ¬ x ≤ c.received + UInt8.ofNat p.size := by
      rw [UInt8.le_iff_toNat_le, hreceived]
      omega
    rw [if_neg hnot] at htake
    have hnext : ∀ es' ∈ ps.head?, counted x es' = x := fun es' hes' =>
      hrest es' (List.mem_of_mem_head? hes') x
    obtain ⟨hends, hmisses⟩ := @ih ⟨c.received + UInt8.ofNat p.size, x⟩ ps
      (fun es' hes' => hps es' (List.mem_cons_of_mem _ hes')) hnext
      (fun es' hes' => hrest es' (List.mem_of_mem_tail hes')) (by simpa using hlength)
      (by dsimp only; omega) (by dsimp only; omega)
    dsimp only at hends hmisses
    rw [hreceived] at hends hmisses
    rw [FrameCount.packetSyncs, FrameCount.afterPackets, List.foldl_cons, htake]
    constructor
    · intro hfits
      obtain ⟨hsyncs, hafter⟩ := hends (by omega)
      exact ⟨congrArg (0 :: ·) hsyncs, hafter⟩
    · intro hfits
      exact congrArg (0 :: ·) (hmisses (by omega))

/-- The frames are told apart when the count of received contacts has room for each of them. -/
theorem countFirst_syncs (hfirst : p.CountFirst) (hsize : p.size ≤ 255) {frames : List p.Frame}
    (hstart : c.received = 0) :
    c.packetSyncs p.last.usage p.last.fieldIndex (frames.flatMap Frame.packets) =
        frames.flatMap Frame.syncs ↔
      ∀ f ∈ frames, (f.rest.length + 1) * p.size ≤ 255 := by
  induction frames generalizing c with
  | nil => simp [FrameCount.packetSyncs]
  | cons f frames ih =>
    have hzero : c.received.toNat = 0 := congrArg UInt8.toNat hstart
    obtain ⟨hends, hmisses⟩ := packetSyncs_frame (c := c) hfirst hsize f.carries
      (fun es hes => by
        obtain rfl : f.first = es := Option.some.inj hes
        rw [f.counts, if_neg f.contacts_ne])
      f.counts_zero (List.length_cons) (by rw [hzero, Nat.zero_add]; exact f.needed)
      (by rw [hzero, Nat.zero_add]; exact f.enough)
    rw [hzero, Nat.zero_add] at hends hmisses
    rw [List.flatMap_cons, List.flatMap_cons, FrameCount.packetSyncs_append, List.forall_mem_cons]
    by_cases hfits : (f.rest.length + 1) * p.size ≤ 255
    · obtain ⟨hsyncs, hafter⟩ := hends hfits
      rw [Frame.packets, hsyncs, ← ih hafter]
      simp [hfits, Frame.syncs]
    · have hsyncs := hmisses (Nat.lt_of_not_le hfits)
      rw [Frame.packets, hsyncs]
      refine iff_of_false (fun heq => ?_) fun h => hfits h.1
      have hprefix := (List.append_inj heq (by simp [Frame.syncs])).1
      rw [Frame.syncs, List.replicate_succ'] at hprefix
      simp at hprefix

/-- With the count behind the fingers a frame is expected to have the contacts of the one before. -/
theorem countLast_syncs (hlast : p.CountLast) (hsize : p.size ≤ 255) {frames : List p.Frame}
    (hstart : c.received = 0) (hexpected : c.expected.toNat ≤ p.size) :
    c.packetSyncs p.last.usage p.last.fieldIndex (frames.flatMap Frame.packets) =
        frames.flatMap Frame.syncs ↔
      ∀ f ∈ frames, f.contacts.toNat ≤ p.size := by
  have hofNat : (UInt8.ofNat p.size).toNat = p.size := UInt8.toNat_ofNat_of_lt' (Nat.lt_succ_of_le hsize)
  induction frames generalizing c with
  | nil => simp [FrameCount.packetSyncs]
  | cons f frames ih =>
    have hle : c.expected ≤ c.received + UInt8.ofNat p.size := by
      rw [hstart, UInt8.zero_add, UInt8.le_iff_toNat_le, hofNat]
      exact hexpected
    have hcount : counted c.expected f.first = f.contacts := by rw [f.counts, if_neg f.contacts_ne]
    have htake := takeAll_countLast hlast (f.carries f.first List.mem_cons_self) hcount
    rw [if_pos hle] at htake
    rw [List.flatMap_cons, List.flatMap_cons, FrameCount.packetSyncs_append, List.forall_mem_cons]
    have hneeded := f.needed
    have henough := f.enough
    cases hrest : f.rest with
    | nil =>
      rw [hrest] at hneeded henough
      have hfits : f.contacts.toNat ≤ p.size := by simpa using henough
      have hnext := @ih ⟨0, f.contacts⟩ rfl hfits
      rw [Frame.packets, Frame.syncs, hrest, FrameCount.packetSyncs, FrameCount.afterPackets, List.foldl_cons,
        htake]
      simpa [FrameCount.packetSyncs, hfits] using hnext
    | cons es rest =>
      rw [hrest] at hneeded
      have hmore : ¬ f.contacts.toNat ≤ p.size := by
        have hmul : (rest.length + 1) * p.size = rest.length * p.size + p.size := Nat.succ_mul _ _
        rw [List.length_cons, hmul] at hneeded
        omega
      refine iff_of_false (fun heq => ?_) fun h => hmore h.1
      rw [Frame.packets, Frame.syncs, hrest, FrameCount.packetSyncs, htake] at heq
      simp [List.replicate_succ] at heq

end Panel

/-! ## The driver -/

namespace MtDevice

variable {p : Panel}

/-- A panel after its probe. -/
theorem probed_packetSyncs (driverData : Nat) (features : List FeatureUsage) (before after : List FieldUsage)
    (hafter : ∀ u ∈ after, u.touches = false) (frames : List p.Frame) :
    (mtProbeMapped driverData features (before ++ p.inputs ++ after)).1.packetSyncs
        (frames.flatMap Panel.Frame.packets) =
      FrameCount.packetSyncs p.last.usage p.last.fieldIndex ⟨0, 0⟩
        (frames.flatMap Panel.Frame.packets) := by
  obtain ⟨hslot, hindex⟩ := p.mapped (mtClassOf driverData) (mtMapFeatures (mtClassOf driverData) features)
    before after hafter
  rw [packetSyncs_count, ← hslot, ← hindex]
  rfl

end MtDevice

/-! ## A panel with one finger in a packet -/

def fingerUsage (usage : Usage) (fieldIndex : Nat) : FieldUsage :=
  ⟨fieldIndex, .touchscreen, 0, 4095, 1, usage⟩

def countUsage (fieldIndex : Nat) : FieldUsage := ⟨fieldIndex, .touchscreen, 0, 255, 0, .contactCount⟩

def countFirstPanel : Panel where
  head := [countUsage 0]
  fingers := []
  finger := [fingerUsage .tipSwitch 1, fingerUsage .contactId 2, fingerUsage .x 3]
  last := fingerUsage .y 4
  tail := []
  alike := List.forall_mem_nil _
  nodup := by decide
  contactId := by decide
  ofContact := by decide
  touches := by decide
  collection := by decide
  global := by decide
  outside := List.forall_mem_nil _
  field := by decide

def countLastPanel : Panel where
  head := []
  fingers := []
  finger := [fingerUsage .tipSwitch 0, fingerUsage .contactId 1, fingerUsage .x 2]
  last := fingerUsage .y 3
  tail := [countUsage 4]
  alike := List.forall_mem_nil _
  nodup := by decide
  contactId := by decide
  ofContact := by decide
  touches := by decide
  collection := by decide
  global := by decide
  outside := by decide
  field := by decide

/-- A finger on the panel. -/
def contactAt (id : Int) (fieldIndex : Nat) : List MtEvent :=
  [⟨true, fieldIndex, .tipSwitch, 1⟩, ⟨true, fieldIndex + 1, .contactId, id⟩, ⟨true, fieldIndex + 2, .x, 100⟩,
    ⟨true, fieldIndex + 3, .y, 100⟩]

/-- A frame with two contacts in two packets. -/
def countFirstFrame : countFirstPanel.Frame where
  contacts := 2
  first := ⟨true, 0, .contactCount, 2⟩ :: contactAt 7 1
  rest := [⟨true, 0, .contactCount, 0⟩ :: contactAt 8 1]
  carries := by
    rintro es (_ | ⟨_, _ | ⟨_, ⟨⟩⟩⟩) <;> rfl
  contacts_ne := by decide
  counts _ := rfl
  counts_zero := by
    rintro es (_ | ⟨_, ⟨⟩⟩) x
    rfl
  needed := by decide
  enough := by decide

def countLastFrame : countLastPanel.Frame where
  contacts := 2
  first := contactAt 7 0 ++ [⟨true, 4, .contactCount, 2⟩]
  rest := [contactAt 8 0 ++ [⟨true, 4, .contactCount, 0⟩]]
  carries := by
    rintro es (_ | ⟨_, _ | ⟨_, ⟨⟩⟩⟩) <;> rfl
  contacts_ne := by decide
  counts _ := rfl
  counts_zero := by
    rintro es (_ | ⟨_, ⟨⟩⟩) x
    rfl
  needed := by decide
  enough := by decide

end AndroidPatch.Hid
