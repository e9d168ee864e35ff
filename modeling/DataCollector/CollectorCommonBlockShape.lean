import DataCollector.CollectorCommonBlock

/-! The log common block over every settings object, well formed or not: at most
MAX_NUM_USER_ATTRIBUTES custom attributes plus one tag per label, every entry taken from a
configured custom attribute or label. -/
namespace DataCollector.Core

/-- The items a for loop takes from the settings value at path, when it reads and iterates;
none otherwise. -/
def settingsItems (configuration : PyObj) (path : List String) : List PyObj :=
  match configuration.attr path >>= PyObj.iter with
  | .ok items => items
  | .error _ => []

theorem settingsItems_of_ok {configuration v : PyObj} {path : List String} {items : List PyObj}
    (hv : configuration.attr path = .ok v) (hi : v.iter = .ok items) :
    settingsItems configuration path = items := by
  simp [settingsItems, hv, bind, Except.bind, hi]

/-- The key and value the normaliser gives for one of the configured custom attributes. -/
def fromCustomAttribute (rt : Runtime) (configuration : PyObj) (k : String) (v : PyObj) : Prop :=
  ∃ item ∈ settingsItems configuration ["application_logging", "forwarding", "custom_attributes"],
    ∃ name value, item.unpack2 = .ok (name, value) ∧
      rt.processUserAttribute name value = .ok (some k, v)

/-- "tags." and the label_type of one of the configured labels, with its label_value. -/
def fromLabel (rt : Runtime) (configuration : PyObj) (k : String) (v : PyObj) : Prop :=
  ∃ label ∈ settingsItems configuration ["labels"], ∃ t,
    label.getitem "label_type" = .ok t ∧ k = "tags." ++ rt.format t ∧
      label.getitem "label_value" = .ok v

/-- What a common block may be for given settings. -/
structure CommonBlockShape (rt : Runtime) (configuration : PyObj) (B : Dict) : Prop where
  size_le : B.size ≤ rt.maxNumUserAttributes + (settingsItems configuration ["labels"]).length
  entry_from : ∀ k v, B.get? k = some v →
    fromCustomAttribute rt configuration k v ∨ fromLabel rt configuration k v

section Loops

variable {maxNum : Nat} {norm : PyObj → PyObj → Except PyExc (Option String × PyObj)}

/-- The custom-attribute loop, on any items: from a dict within the cap it returns one within
the cap, whose new entries are entries the normaliser gave for items it unpacked. -/
theorem customAttributesLoop_shape {d d' : Dict} {items : List PyObj}
    (h : customAttributesLoop maxNum norm d items = .ok d') (hd : d.size ≤ maxNum) :
    d'.size ≤ maxNum ∧ ∀ k v, d'.get? k = some v → d.get? k = some v ∨ ∃ item ∈ items,
      ∃ name value, item.unpack2 = .ok (name, value) ∧ norm name value = .ok (some k, v) := by
  induction items generalizing d with
  | nil =>
    cases h
    exact ⟨hd, fun _ _ hk => .inl hk⟩
  | cons item rest ih =>
    simp only [customAttributesLoop, pure_bind] at h
    obtain ⟨⟨name, value⟩, hu, h⟩ := bind_eq_ok h
    split at h
    · cases h
      exact ⟨hd, fun _ _ hk => .inl hk⟩
    obtain ⟨⟨_ | key, val⟩, hn, h⟩ := bind_eq_ok h
    · obtain ⟨hsize, hentries⟩ := ih h hd
      exact ⟨hsize, fun k v hk => (hentries k v hk).imp_right
        fun ⟨item', hm, hp⟩ => ⟨item', List.mem_cons_of_mem _ hm, hp⟩⟩
    · have hset : (d.set key val).size ≤ maxNum := by
        have := Dict.size_set_le d key val
        omega
      obtain ⟨hsize, hentries⟩ := ih h hset
      refine ⟨hsize, fun k v hk => ?_⟩
      rcases hentries k v hk with hk | ⟨item', hm, hp⟩
      · rcases Dict.get?_set_eq_some hk with ⟨rfl, rfl⟩ | hk
        · exact .inr ⟨item, List.mem_cons_self _ _, name, value, hu, hn⟩
        · exact .inl hk
      · exact .inr ⟨item', List.mem_cons_of_mem _ hm, hp⟩

/-- The label comprehension, on any labels: each label adds at most one entry, "tags." and
its label_type with its label_value. -/
theorem labelTagEntries_shape {rt : Runtime} {exclude : Option PyObj} {d d' : Dict}
    {labels : List PyObj} (h : labelTagEntries rt exclude d labels = .ok d') :
    d'.size ≤ d.size + labels.length ∧ ∀ k v, d'.get? k = some v → d.get? k = some v ∨
      ∃ label ∈ labels, ∃ t, label.getitem "label_type" = .ok t ∧ k = "tags." ++ rt.format t ∧
        label.getitem "label_value" = .ok v := by
  induction labels generalizing d with
  | nil =>
    cases h
    exact ⟨by simp, fun _ _ hk => .inl hk⟩
  | cons label rest ih =>
    simp only [labelTagEntries] at h
    obtain ⟨keep, -, h⟩ := bind_eq_ok h
    split at h
    · obtain ⟨t, ht, h⟩ := bind_eq_ok h
      obtain ⟨val, hval, h⟩ := bind_eq_ok h
      obtain ⟨hsize, hentries⟩ := ih h
      have hset := Dict.size_set_le d ("tags." ++ rt.format t) val
      refine ⟨by simp only [List.length_cons]; omega, fun k v hk => ?_⟩
      rcases hentries k v hk with hk | ⟨label', hm, hp⟩
      · rcases Dict.get?_set_eq_some hk with ⟨rfl, rfl⟩ | hk
        · exact .inr ⟨label, List.mem_cons_self _ _, t, ht, rfl, hval⟩
        · exact .inl hk
      · exact .inr ⟨label', List.mem_cons_of_mem _ hm, hp⟩
    · obtain ⟨hsize, hentries⟩ := ih h
      exact ⟨by simp only [List.length_cons]; omega, fun k v hk => (hentries k v hk).imp_right
        fun ⟨label', hm, hp⟩ => ⟨label', List.mem_cons_of_mem _ hm, hp⟩⟩

end Loops

section Blocks

variable {rt : Runtime} {configuration : PyObj}

/-- Steps 1 and 2 from the empty dict: at most MAX_NUM_USER_ATTRIBUTES entries, each one the
normaliser gave for a configured custom attribute. -/
theorem customAttributesBlock_shape {C : Dict} (h : customAttributesBlock rt configuration ∅ = .ok C) :
    C.size ≤ rt.maxNumUserAttributes ∧
      ∀ k v, C.get? k = some v → fromCustomAttribute rt configuration k v := by
  simp only [customAttributesBlock, pure_bind] at h
  obtain ⟨attrs, hattrs, h⟩ := bind_eq_ok h
  split at h
  · cases h
    exact ⟨Nat.zero_le _, by simp⟩
  obtain ⟨items, hitems, h⟩ := bind_eq_ok h
  obtain ⟨kept, hkept, h⟩ := bind_eq_ok h
  cases h
  obtain ⟨hsize, hentries⟩ := customAttributesLoop_shape hkept (Nat.zero_le _)
  unfold fromCustomAttribute
  rw [settingsItems_of_ok hattrs hitems]
  exact ⟨by simpa using hsize,
    fun k v hk => (hentries k v (by simpa using hk)).resolve_left (by simp)⟩

/-- Steps 3 to 5 on any common: at most one entry more per configured label, "tags." and its
label_type with its label_value. -/
theorem labelTags_shape {common B : Dict} (h : labelTags rt configuration common = .ok B) :
    B.size ≤ common.size + (settingsItems configuration ["labels"]).length ∧
      ∀ k v, B.get? k = some v → common.get? k = some v ∨ fromLabel rt configuration k v := by
  simp only [labelTags, pure_bind] at h
  obtain ⟨labels, hlabels, h⟩ := bind_eq_ok h
  split at h
  · cases h
    exact ⟨Nat.le_add_right _ _, fun _ _ hk => .inl hk⟩
  obtain ⟨enabled, -, h⟩ := bind_eq_ok h
  split at h
  · cases h
    exact ⟨Nat.le_add_right _ _, fun _ _ hk => .inl hk⟩
  obtain ⟨exclude, -, h⟩ := bind_eq_ok h
  obtain ⟨items, hitems, h⟩ := bind_eq_ok h
  obtain ⟨tags, htags, h⟩ := bind_eq_ok h
  cases h
  unfold fromLabel
  rw [settingsItems_of_ok hlabels hitems]
  obtain ⟨hsize, hentries⟩ := labelTagEntries_shape htags
  refine ⟨(Dict.size_update_le common tags).trans (by simpa using hsize), fun k v hk => ?_⟩
  rcases Dict.get?_update_eq_some hk with hk | hk
  · exact .inr ((hentries k v hk).resolve_left (by simp))
  · exact .inl hk

end Blocks

/-- For every settings object and every normaliser, get_log_events_common_block returns a dict
of at most MAX_NUM_USER_ATTRIBUTES custom attributes plus one tag per configured label, each
entry from a configured custom attribute or label; the empty dict when the body raises. -/
theorem getLogEventsCommonBlock_shape (rt : Runtime) (configuration : PyObj) :
    CommonBlockShape rt configuration (getLogEventsCommonBlock rt configuration) := by
  unfold getLogEventsCommonBlock
  split
  · rename_i B hB
    obtain ⟨C, hC, hB⟩ := bind_eq_ok hB
    obtain ⟨hCsize, hCentries⟩ := customAttributesBlock_shape hC
    obtain ⟨hBsize, hBentries⟩ := labelTags_shape hB
    exact ⟨by omega, fun k v hk => (hBentries k v hk).imp_left (hCentries k v)⟩
  · exact ⟨Nat.zero_le _, by simp⟩

end DataCollector.Core
