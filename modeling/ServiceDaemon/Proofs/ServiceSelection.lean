/-
Purpose: Which services a daemon is built with: the registry's tag filters, the
  infrastructure tags, and the merge of the two selections.
Main exports: SelectedFrom, Merged, service_selection
-/
import ServiceDaemon.Core.ServiceRegistry

namespace ServiceDaemon

/-! ### One selection -/

/-- `services` are the entries from `index` on that the filter keeps, by
increasing identifier. -/
structure SelectedFrom (keeps : ServiceEntry → Bool)
    (entries : List ServiceEntry) (index : Nat)
    (services : List RegistryService) : Prop where
  ordered : services.Pairwise fun first second =>
    first.id.value < second.id.value
  sound : ∀ svc ∈ services, index ≤ svc.id.value ∧
    entries[svc.id.value - index]? = some svc.entry ∧ keeps svc.entry = true
  complete : ∀ (i : Nat) entry, entries[i]? = some entry →
    keeps entry = true → ∃ svc ∈ services, svc.id = ⟨index + i⟩

theorem RegistryBuilder.buildFrom_selected (builder : RegistryBuilder)
    (entries : List ServiceEntry) (index token : Nat) :
    SelectedFrom builder.keeps entries index
      (builder.buildFrom entries index token) := by
  induction entries generalizing index token with
  | nil => exact ⟨.nil, by simp [buildFrom], by simp⟩
  | cons entry entries ih =>
    unfold buildFrom
    split
    · have later := ih (index + 1) (token + 1)
      have sound := later.sound
      refine ⟨?_, by grind, ?_⟩
      · refine .cons (fun svc listed => ?_) later.ordered
        exact (sound svc listed).1
      · intro i other found kept
        cases i with
        | zero => exact ⟨_, List.mem_cons_self, rfl⟩
        | succ i => grind [later.complete i other found kept]
    · have later := ih (index + 1) token
      have sound := later.sound
      refine ⟨later.ordered, by grind, ?_⟩
      intro i other found kept
      cases i with
      | zero => grind
      | succ i => grind [later.complete i other found kept]

/-! ### The merge -/

/-- What the merge makes of the services it has and those it is to add. -/
structure Merged (services added res : List RegistryService) : Prop where
  kept : services <+: res
  sound : ∀ svc ∈ res, svc ∈ services ∨ svc ∈ added
  complete : ∀ svc ∈ added, ∃ same ∈ res, same.id = svc.id
  distinct : (services.map (·.id)).Nodup → (res.map (·.id)).Nodup

theorem mergeServices_merged (services added : List RegistryService) :
    Merged services added (mergeServices services added) := by
  induction added generalizing services with
  | nil => exact ⟨List.prefix_rfl, fun _ => .inl, by simp, id⟩
  | cons svc rest ih =>
    unfold mergeServices
    split
    · have merged := ih services
      have inside := merged.kept.subset
      exact ⟨merged.kept, by grind [Merged], by grind [Merged], merged.distinct⟩
    · have merged := ih (services ++ [svc])
      have inside := merged.kept.subset
      have distinct := merged.distinct
      exact ⟨(List.prefix_append _ _).trans merged.kept, by grind [Merged],
        by grind [Merged], by grind⟩

/-! ### The services of a daemon -/

theorem keeps_infra {infraTags : List String} (tagged : infraTags ≠ []) (entry : ServiceEntry) :
    (RegistryBuilder.new.withTags infraTags).keeps entry = true ↔
      ∃ tag ∈ entry.tags, tag ∈ infraTags := by
  simp [RegistryBuilder.keeps, RegistryBuilder.withTags, RegistryBuilder.new, tagged]

/-- The entry passes the filters. -/
def RegistryBuilder.Selects (builder : RegistryBuilder) (entry : ServiceEntry) : Prop :=
  (builder.includeTags = [] ∨ ∃ tag ∈ entry.tags, tag ∈ builder.includeTags) ∧
    ∀ tag ∈ entry.tags, tag ∉ builder.excludeTags

theorem keeps_iff (builder : RegistryBuilder) (entry : ServiceEntry) :
    builder.keeps entry = true ↔ builder.Selects entry := by
  simp [RegistryBuilder.keeps, RegistryBuilder.Selects]

section Selected

variable {keeps : ServiceEntry → Bool} {entries : List ServiceEntry}
  {services : List RegistryService}

theorem SelectedFrom.mem_iff (selected : SelectedFrom keeps entries 0 services)
    {i : Nat} {entry : ServiceEntry} (found : entries[i]? = some entry) :
    (∃ svc ∈ services, svc.id = ⟨i⟩) ↔ keeps entry = true := by
  constructor
  · rintro ⟨svc, listed, id⟩
    have sound := selected.sound svc listed
    rw [id] at sound
    grind
  · intro kept
    simpa using selected.complete i entry found kept

theorem SelectedFrom.nodup (selected : SelectedFrom keeps entries 0 services) :
    (services.map (·.id)).Nodup := by
  rw [List.Nodup, List.pairwise_map]
  refine selected.ordered.imp ?_
  intro first second before same
  rw [same] at before
  exact Nat.lt_irrefl _ before

end Selected

/-- The services of a built daemon begin with the registry's own selection, as
it was made and in registry order.  Each service is the entry its identifier
points to, no identifier comes twice, and an entry is there exactly when the
filters select it or it carries an infrastructure tag. -/
theorem service_selection (entries : List ServiceEntry)
    (registry : Option RegistryBuilder) (infraTags : List String) :
    let builder := registry.getD .new
    let selected := builder.build entries 0
    let services := buildServices entries registry infraTags
    selected <+: services ∧
      (selected.Pairwise fun first second =>
        first.id.value < second.id.value) ∧
      (∀ (i : Nat) entry, entries[i]? = some entry →
        ((∃ service ∈ selected, service.id = ⟨i⟩) ↔ builder.Selects entry)) ∧
      (services.map (·.id)).Nodup ∧
      (∀ service ∈ services, entries[service.id.value]? = some service.entry) ∧
      ∀ (i : Nat) entry, entries[i]? = some entry → ((∃ service ∈ services, service.id = ⟨i⟩) ↔
          builder.Selects entry ∨ ∃ tag ∈ entry.tags, tag ∈ infraTags) := by
  intro builder selected services
  have own : SelectedFrom builder.keeps entries 0 selected :=
    builder.buildFrom_selected entries 0 0
  have chosen : ∀ (i : Nat) entry, entries[i]? = some entry →
      ((∃ service ∈ selected, service.id = ⟨i⟩) ↔ builder.Selects entry) :=
    fun i entry found => (own.mem_iff found).trans (keeps_iff builder entry)
  by_cases untagged : infraTags = []
  · have same : services = selected := by
      simp [services, buildServices, untagged, selected, builder]
    rw [same]
    refine ⟨List.prefix_rfl, own.ordered, chosen, own.nodup,
      fun service listed => (own.sound service listed).2.1, ?_⟩
    intro i entry found
    simp [chosen i entry found, untagged]
  · have infra := (RegistryBuilder.new.withTags infraTags).buildFrom_selected
      entries 0 selected.length
    have merged : Merged selected
        ((RegistryBuilder.new.withTags infraTags).build entries selected.length) services := by
      simp only [services, buildServices, List.isEmpty_iff, untagged, if_false]
      exact mergeServices_merged _ _
    refine ⟨merged.kept, own.ordered, chosen, merged.distinct own.nodup, ?_, ?_⟩
    · intro service listed
      rcases merged.sound service listed with ours | theirs
      · exact (own.sound service ours).2.1
      · exact (infra.sound service theirs).2.1
    · intro i entry found
      rw [← chosen i entry found, ← keeps_infra untagged, ← infra.mem_iff found]
      constructor
      · rintro ⟨service, listed, id⟩
        exact (merged.sound service listed).imp (fun ours => ⟨_, ours, id⟩)
          fun theirs => ⟨_, theirs, id⟩
      · rintro (⟨service, ours, id⟩ | ⟨service, theirs, id⟩)
        · exact ⟨service, merged.kept.subset ours, id⟩
        · obtain ⟨same, listed, equal⟩ := merged.complete service theirs
          exact ⟨same, listed, equal.trans id⟩

end ServiceDaemon
