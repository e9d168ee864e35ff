import DataCollector.CollectorDict

/-! Session.get_log_events_common_block: the configured custom attributes, capped at
MAX_NUM_USER_ATTRIBUTES, then the labels as tags, less those whose lowercased type the exclusion
list holds as written; any exception gives the empty dict. -/
namespace DataCollector.Core

/-- The loop over the configured custom attributes, from one item on. Each item is
unpacked into attr_name, attr_value before the body runs; the body breaks when the dict
already holds maxNum keys, and otherwise keeps the pair under the key the normaliser gives. -/
def customAttributesLoop (maxNum : Nat)
    (processUserAttribute : PyObj → PyObj → Except PyExc (Option String × PyObj)) :
    Dict → List PyObj → Except PyExc Dict
  | customAttributes, [] => .ok customAttributes
  | customAttributes, item :: rest => do
    let (attrName, attrValue) ← item.unpack2
    if customAttributes.size ≥ maxNum then return customAttributes
    match ← processUserAttribute attrName attrValue with
    | (some key, val) =>
      customAttributesLoop maxNum processUserAttribute (customAttributes.set key val) rest
    | (none, _) => customAttributesLoop maxNum processUserAttribute customAttributes rest

/-- Steps 1 and 2: when custom attributes are configured, run the loop over them and put
what it kept into common. -/
def customAttributesBlock (rt : Runtime) (configuration : PyObj) (common : Dict) :
    Except PyExc Dict := do
  let customAttributes ←
    configuration.attr ["application_logging", "forwarding", "custom_attributes"]
  if !customAttributes.truthy then return common
  let kept ← customAttributesLoop rt.maxNumUserAttributes rt.processUserAttribute ∅
    (← customAttributes.iter)
  return common.update kept

/-- The filter of the comprehension over the labels: with an exclusion list, the label is
kept when its label_type, lowercased, is not in the list; without one, every label is. -/
def keepLabel (rt : Runtime) (exclude : Option PyObj) (label : PyObj) : Except PyExc Bool :=
  match exclude with
  | none => pure true
  | some excluded => do
    let labelType ← (← label.getitem "label_type").callLower rt.lower
    pure !(← excluded.contains labelType)

/-- The dict comprehension over the labels, from one label on: for each label kept, the key
is "tags." and the label_type, the value the label_value. -/
def labelTagEntries (rt : Runtime) (exclude : Option PyObj) :
    Dict → List PyObj → Except PyExc Dict
  | tags, [] => .ok tags
  | tags, label :: rest => do
    if ← keepLabel rt exclude label then
      let key := "tags." ++ rt.format (← label.getitem "label_type")
      let value ← label.getitem "label_value"
      labelTagEntries rt exclude (tags.set key value) rest
    else labelTagEntries rt exclude tags rest

/-- Steps 3 to 5: no labels, or label forwarding disabled, leaves common as it is; otherwise
the tags of the labels, filtered by the exclusion list when one is set, go into common. -/
def labelTags (rt : Runtime) (configuration : PyObj) (common : Dict) : Except PyExc Dict := do
  let labels ← configuration.attr ["labels"]
  if !labels.truthy then return common
  let enabled ← configuration.attr ["application_logging", "forwarding", "labels", "enabled"]
  if !enabled.truthy then return common
  let exclude ← configuration.attr ["application_logging", "forwarding", "labels", "exclude"]
  let tags ← labelTagEntries rt (if exclude.truthy then some exclude else none) ∅
    (← labels.iter)
  return common.update tags

/-- The body of the try block: steps 1 to 5 on common = ∅. -/
def commonBlock (rt : Runtime) (configuration : PyObj) : Except PyExc Dict := do
  let common ← customAttributesBlock rt configuration ∅
  labelTags rt configuration common

/-- Session.get_log_events_common_block: an exception anywhere in the body is logged and
the empty dict returned. -/
def getLogEventsCommonBlock (rt : Runtime) (configuration : PyObj) : Dict :=
  match commonBlock rt configuration with
  | .ok common => common
  | .error _ => ∅

/-! ### The custom-attribute loop against the capped fold -/

/-- One step of the fold the spec describes: a dict already holding maxNum keys, or a pair
the normaliser rejects, is left as it is; otherwise the accepted key is set. -/
def acceptAttribute (maxNum : Nat) (norm : PyObj → PyObj → Option String × PyObj)
    (attrs : Dict) (pair : PyObj × PyObj) : Dict :=
  if attrs.size ≥ maxNum then attrs
  else
    match norm pair.1 pair.2 with
    | (some key, val) => attrs.set key val
    | (none, _) => attrs

/-- The custom attributes as the spec describes them, from the pairs in their order. -/
def cappedAttributes (maxNum : Nat) (norm : PyObj → PyObj → Option String × PyObj)
    (pairs : List (PyObj × PyObj)) : Dict :=
  pairs.foldl (acceptAttribute maxNum norm) ∅

/-- A configured attribute (name, value), as the tuple the loop unpacks. -/
def pairItem (pair : PyObj × PyObj) : PyObj := .seq [pair.1, pair.2]

section CappedFold

variable (maxNum : Nat) (norm : PyObj → PyObj → Option String × PyObj)

theorem foldl_acceptAttribute_of_full (attrs : Dict) (h : maxNum ≤ attrs.size)
    (pairs : List (PyObj × PyObj)) : pairs.foldl (acceptAttribute maxNum norm) attrs = attrs := by
  induction pairs with
  | nil => rfl
  | cons p ps ih => simpa [acceptAttribute, h] using ih

/-- The loop with its break computes the fold that never breaks: once the dict is full,
no later step of the fold changes it. -/
theorem customAttributesLoop_pairs (pairs : List (PyObj × PyObj)) (attrs : Dict) :
    customAttributesLoop maxNum (fun a b => .ok (norm a b)) attrs (pairs.map pairItem) =
      .ok (pairs.foldl (acceptAttribute maxNum norm) attrs) := by
  induction pairs generalizing attrs with
  | nil => rfl
  | cons p ps ih =>
    by_cases h : maxNum ≤ attrs.size
    · simp [customAttributesLoop, pairItem, h, foldl_acceptAttribute_of_full, acceptAttribute,
        bind, Except.bind, pure, Except.pure]
    · rcases hn : norm p.1 p.2 with ⟨_ | key, val⟩ <;>
        simp [customAttributesLoop, pairItem, h, acceptAttribute, hn, ih,
          bind, Except.bind, pure, Except.pure]

theorem size_acceptAttribute_le (attrs : Dict) (h : attrs.size ≤ maxNum) (p : PyObj × PyObj) :
    (acceptAttribute maxNum norm attrs p).size ≤ maxNum := by
  unfold acceptAttribute
  split
  · exact h
  · split
    · have := attrs.size_set_le ‹_› ‹_›
      omega
    · exact h

theorem size_foldl_acceptAttribute_le (pairs : List (PyObj × PyObj)) (attrs : Dict)
    (h : attrs.size ≤ maxNum) : (pairs.foldl (acceptAttribute maxNum norm) attrs).size ≤ maxNum := by
  induction pairs generalizing attrs with
  | nil => exact h
  | cons p ps ih => exact ih _ (size_acceptAttribute_le maxNum norm attrs h p)

theorem keys_subset_acceptAttribute (attrs : Dict) (p : PyObj × PyObj) {k : String}
    (h : k ∈ attrs.keys) : k ∈ (acceptAttribute maxNum norm attrs p).keys := by
  unfold acceptAttribute
  split
  · exact h
  · split <;> simp [h]

theorem keys_subset_foldl_acceptAttribute (pairs : List (PyObj × PyObj)) (attrs : Dict)
    {k : String} (h : k ∈ attrs.keys) : k ∈ (pairs.foldl (acceptAttribute maxNum norm) attrs).keys := by
  induction pairs generalizing attrs with
  | nil => exact h
  | cons p ps ih => exact ih _ (keys_subset_acceptAttribute maxNum norm attrs p h)

/-- A key the fold holds was there before or was accepted for one of the pairs. -/
theorem mem_keys_foldl_acceptAttribute (pairs : List (PyObj × PyObj)) (attrs : Dict)
    {k : String} (h : k ∈ (pairs.foldl (acceptAttribute maxNum norm) attrs).keys) :
    k ∈ attrs.keys ∨ ∃ p ∈ pairs, (norm p.1 p.2).1 = some k := by
  induction pairs generalizing attrs with
  | nil => exact .inl h
  | cons p ps ih =>
    rcases ih _ h with hk | ⟨q, hq, hqk⟩
    · unfold acceptAttribute at hk
      split at hk
      · exact .inl hk
      · split at hk
        · rename_i key val hn
          rcases (attrs.mem_keys_set key k val).mp hk with rfl | hk
          · exact .inr ⟨p, List.mem_cons_self _ _, by rw [hn]⟩
          · exact .inl hk
        · exact .inl hk
    · exact .inr ⟨q, List.mem_cons_of_mem _ hq, hqk⟩

/-- For every list of pairs and every normaliser that returns, the custom-attribute loop builds
the capped fold: at most maxNum keys, each accepted for some pair, and the key of every pair
accepted while fewer than maxNum keys were held. -/
theorem customAttributesLoop_eq_cappedAttributes (pairs : List (PyObj × PyObj)) :
    customAttributesLoop maxNum (fun a b => .ok (norm a b)) ∅ (pairs.map pairItem) =
        .ok (cappedAttributes maxNum norm pairs) ∧
      (cappedAttributes maxNum norm pairs).size ≤ maxNum ∧
      (∀ k ∈ (cappedAttributes maxNum norm pairs).keys,
        ∃ p ∈ pairs, (norm p.1 p.2).1 = some k) ∧
      (∀ pre p post k, pairs = pre ++ p :: post →
        (cappedAttributes maxNum norm pre).size < maxNum → (norm p.1 p.2).1 = some k →
          k ∈ (cappedAttributes maxNum norm pairs).keys) := by
  refine ⟨customAttributesLoop_pairs maxNum norm pairs ∅,
    size_foldl_acceptAttribute_le maxNum norm pairs ∅ (Nat.zero_le _), fun k hk => ?_, ?_⟩
  · simpa using mem_keys_foldl_acceptAttribute maxNum norm pairs ∅ hk
  · rintro pre ⟨a, b⟩ post k rfl hlt hk
    obtain ⟨val, hn⟩ : ∃ val, norm a b = (some k, val) := ⟨_, Prod.ext hk rfl⟩
    rw [cappedAttributes] at hlt ⊢
    rw [List.foldl_append, List.foldl_cons]
    apply keys_subset_foldl_acceptAttribute
    simp [acceptAttribute, hn, Nat.not_le.mpr hlt]

end CappedFold

/-! ### Label tags -/

/-- A label as the settings hold it: a dict with its label_type and label_value. -/
def labelObj (label : String × PyObj) : PyObj :=
  .dict [("label_type", .str label.1), ("label_value", label.2)]

@[simp] theorem getitem_labelObj_type (label : String × PyObj) :
    (labelObj label).getitem "label_type" = .ok (.str label.1) := rfl

@[simp] theorem getitem_labelObj_value (label : String × PyObj) :
    (labelObj label).getitem "label_value" = .ok label.2 := rfl

/-- The filter labelTags applies for an exclusion list of strings: an empty list is false
and filters nothing, a list keeps the labels whose lowercased type it does not hold. -/
theorem keepLabel_labelObj (rt : Runtime) (exclude : List String) (label : String × PyObj) :
    keepLabel rt (if (PyObj.seq (exclude.map .str)).truthy then some (.seq (exclude.map .str))
      else none) (labelObj label) = .ok (decide (rt.lower label.1 ∉ exclude)) := by
  cases exclude with
  | nil => simp [keepLabel, pure, Except.pure]
  | cons e es =>
    simp [keepLabel, PyObj.contains_strs, -List.map_cons, bind, Except.bind, pure, Except.pure]

theorem labelTagEntries_labels (rt : Runtime) (exclude : Option PyObj) (keep : String → Bool)
    (hkeep : ∀ label, keepLabel rt exclude (labelObj label) = .ok (keep label.1))
    (labels : List (String × PyObj)) (tags : Dict) :
    labelTagEntries rt exclude tags (labels.map labelObj) =
      .ok ((labels.filter fun l => keep l.1).foldl
        (fun acc l => acc.set ("tags." ++ l.1) l.2) tags) := by
  induction labels generalizing tags with
  | nil => rfl
  | cons l ls ih =>
    by_cases hk : keep l.1 <;>
      simp [labelTagEntries, hkeep, hk, ih, List.filter_cons, bind, Except.bind, pure, Except.pure]

theorem tags_append_inj {t t' : String} (h : "tags." ++ t = "tags." ++ t') : t = t' :=
  String.ext (List.append_cancel_left (congrArg String.data h))

theorem lookup_map_tags (labels : List (String × PyObj)) (k : String) (v : PyObj) :
    (labels.map fun l => ("tags." ++ l.1, l.2)).lookup k = some v ↔
      ∃ t, k = "tags." ++ t ∧ labels.lookup t = some v := by
  induction labels with
  | nil => simp
  | cons l ls ih =>
    by_cases hk : k = "tags." ++ l.1
    · subst hk
      simp only [List.map_cons, lookup_cons_eq_ite, ↓reduceIte, Option.some.injEq]
      constructor
      · rintro rfl
        exact ⟨l.1, rfl, by simp [lookup_cons_eq_ite]⟩
      · rintro ⟨t, ht, hv⟩
        simpa [lookup_cons_eq_ite, ← tags_append_inj ht] using hv
    · simp only [List.map_cons, lookup_cons_eq_ite, hk, ↓reduceIte, ih]
      constructor
      · rintro ⟨t, rfl, hv⟩
        exact ⟨t, rfl, by simpa [lookup_cons_eq_ite, show t ≠ l.1 by rintro rfl; exact hk rfl]⟩
      · rintro ⟨t, rfl, hv⟩
        exact ⟨t, rfl, by simpa [lookup_cons_eq_ite, show t ≠ l.1 by rintro rfl; exact hk rfl]
          using hv⟩

/-- The comprehension's dict: its key "tags." t holds the value of the last kept label of
type t. -/
theorem get?_labelTags (labels : List (String × PyObj)) (keep : String → Bool) (k : String)
    (v : PyObj) :
    ((labels.filter fun l => keep l.1).foldl
        (fun (acc : Dict) (l : String × PyObj) => acc.set ("tags." ++ l.1) l.2) ∅).get? k =
        some v ↔
      ∃ t, k = "tags." ++ t ∧ keep t = true ∧ labels.reverse.lookup t = some v := by
  rw [← List.foldl_map (fun l : String × PyObj => ("tags." ++ l.1, l.2))
      (fun (acc : Dict) (e : String × PyObj) => acc.set e.1 e.2),
    Dict.get?_foldl_set, Dict.get?_empty, Option.or_none, ← List.map_reverse,
    ← List.filter_reverse, lookup_map_tags]
  simp only [lookup_filter_fst]
  constructor
  · rintro ⟨t, rfl, hv⟩
    by_cases hk : keep t
    · exact ⟨t, rfl, hk, by simpa [hk] using hv⟩
    · simp [hk] at hv
  · rintro ⟨t, rfl, hk, hv⟩
    exact ⟨t, rfl, by simp [hk, hv]⟩

section LabelTags

variable {rt : Runtime} {configuration : PyObj} {common : Dict}

/-- No labels leave common as it is, whatever forwarding says. -/
theorem labelTags_of_nil (hl : configuration.attr ["labels"] = .ok (.seq [])) :
    labelTags rt configuration common = .ok common := by
  simp [labelTags, hl, bind, Except.bind, pure, Except.pure]

/-- Label forwarding off leaves common as it is; the exclusion list is not read. -/
theorem labelTags_of_disabled {labels enabled : PyObj}
    (hl : configuration.attr ["labels"] = .ok labels)
    (he : configuration.attr ["application_logging", "forwarding", "labels", "enabled"] = .ok enabled)
    (hoff : enabled.truthy = false) :
    labelTags rt configuration common = .ok common := by
  cases h : labels.truthy <;> simp [labelTags, hl, he, h, hoff, bind, Except.bind, pure, Except.pure]

/-- Labels with forwarding on: the tags of the labels the exclusion list keeps go into common. -/
theorem labelTags_of_enabled {labels : List (String × PyObj)} {enabled : PyObj}
    {exclude : List String} (hl : configuration.attr ["labels"] = .ok (.seq (labels.map labelObj)))
    (hne : labels ≠ [])
    (he : configuration.attr ["application_logging", "forwarding", "labels", "enabled"] = .ok enabled)
    (hon : enabled.truthy = true)
    (hx : configuration.attr ["application_logging", "forwarding", "labels", "exclude"] =
      .ok (.seq (exclude.map .str))) :
    labelTags rt configuration common =
      .ok (common.update ((labels.filter fun l => decide (rt.lower l.1 ∉ exclude)).foldl
        (fun (acc : Dict) (l : String × PyObj) => acc.set ("tags." ++ l.1) l.2) ∅)) := by
  have hentries := labelTagEntries_labels rt _ (fun t => decide (rt.lower t ∉ exclude))
    (keepLabel_labelObj rt exclude) labels ∅
  simp only [labelTags, hl, he, hx, hon, PyObj.iter_seq, hentries, bind, Except.bind]
  simp [pure, Except.pure, List.isEmpty_iff, hne]

/-- Once the custom attributes C are built, the common block is what labelTags makes of C. -/
theorem getLogEventsCommonBlock_of_labelTags {C B : Dict}
    (hc : customAttributesBlock rt configuration ∅ = .ok C)
    (hB : labelTags rt configuration C = .ok B) : getLogEventsCommonBlock rt configuration = B := by
  simp [getLogEventsCommonBlock, commonBlock, hc, hB, bind, Except.bind]

end LabelTags

/-- Settings with one label of type "a" and the exclusion list ["A"]. -/
def mixedCaseExclusion : PyObj :=
  .ns [("labels", .seq [labelObj ("a", .str "x")]),
    ("application_logging", .ns [("forwarding", .ns [("custom_attributes", .seq []),
      ("labels", .ns [("enabled", .bool true), ("exclude", .seq [.str "A"])])])])]

/-- For labels held as label dicts with string types, once the custom attributes C are built:
no labels, or forwarding off, give C; otherwise C updated with the tag "tags." t for each type t
whose lowercased form the exclusion list, as written, does not hold, valued by its last label. -/
theorem getLogEventsCommonBlock_labels (rt : Runtime) (configuration : PyObj) (C : Dict)
    (labels : List (String × PyObj)) (hc : customAttributesBlock rt configuration ∅ = .ok C)
    (hl : configuration.attr ["labels"] = .ok (.seq (labels.map labelObj))) :
    (labels = [] → getLogEventsCommonBlock rt configuration = C) ∧
    ∀ enabled,
      configuration.attr ["application_logging", "forwarding", "labels", "enabled"] = .ok enabled →
      (enabled.truthy = false → getLogEventsCommonBlock rt configuration = C) ∧
      (labels ≠ [] → enabled.truthy = true → ∀ exclude : List String,
        configuration.attr ["application_logging", "forwarding", "labels", "exclude"] =
          .ok (.seq (exclude.map .str)) →
        ∃ T : Dict, getLogEventsCommonBlock rt configuration = C.update T ∧
          ∀ k v, T.get? k = some v ↔
            ∃ t, k = "tags." ++ t ∧ rt.lower t ∉ exclude ∧ labels.reverse.lookup t = some v) := by
  refine ⟨fun h => ?_, fun enabled he => ⟨fun hoff => ?_, fun hne hon exclude hx => ?_⟩⟩
  · subst h
    exact getLogEventsCommonBlock_of_labelTags hc (labelTags_of_nil hl)
  · exact getLogEventsCommonBlock_of_labelTags hc (labelTags_of_disabled hl he hoff)
  · refine ⟨_, getLogEventsCommonBlock_of_labelTags hc (labelTags_of_enabled hl hne he hon hx),
      fun k v => ?_⟩
    simpa using get?_labelTags labels (fun t => decide (rt.lower t ∉ exclude)) k v

theorem getLogEventsCommonBlock_labels_mixedCase :
    ∃ T : Dict, getLogEventsCommonBlock Runtime.basic mixedCaseExclusion = Dict.update ∅ T ∧
      ∀ k v, T.get? k = some v ↔ ∃ t, k = "tags." ++ t ∧ Runtime.basic.lower t ∉ ["A"] ∧
        [("a", PyObj.str "x")].reverse.lookup t = some v :=
  ((getLogEventsCommonBlock_labels Runtime.basic mixedCaseExclusion ∅ [("a", .str "x")] rfl
    rfl).2 (.bool true) rfl).2 (List.cons_ne_nil _ _) rfl ["A"] rfl

/-- The exclusion entry "A" equals the label type "a" once case is ignored, yet the tag
"tags.a" is attached: only the label type is lowercased, not the entries. -/
theorem mixedCaseExclusion_keeps_tag :
    Runtime.basic.lower "a" = Runtime.basic.lower "A" ∧
      (getLogEventsCommonBlock Runtime.basic mixedCaseExclusion).get? "tags.a" =
        some (.str "x") :=
  ⟨rfl, rfl⟩

end DataCollector.Core
