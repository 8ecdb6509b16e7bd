import Mathlib
import Rollout.Cascade
import Rollout.Proofs.OrderedMap

/-!
# The nearest level wins

What resolution has to find, said without it: a level sets a setting or leaves it to the levels
above, and the value is that of the first level that sets it.

* `Setting`: the thirteen values that a level may leave to the levels above it.
* `Setting.Gives`, `Setting.IsSet`, `Setting.Sets`: what a level gives, and when that counts.
* `FirstSet`, `Setting.Nearest`: the value of the first level that sets it, with that level.
* `Service.Cascaded`: a tree with the nearest value of every setting in every place.
* **`resolve_eq_iff_cascaded`**: resolution yields the one such tree.
-/

namespace Rollout

/-! ## Settings -/

/-- The values that a level may leave to the levels above it. -/
inductive Setting where
  | space
  | hostname
  | loginArgs
  | extraArgs
  | kubeContext
  | syncTimeoutSeconds
  | retryLimit
  | syncPolicy
  | preDeploySteps
  | postDeploySteps
  | extraDeployJobs
  | env
  | secrets
  deriving DecidableEq

namespace Setting

/-- What a resolved value of the setting is. -/
@[reducible]
def Value : Setting → Type
  | space | hostname => String
  | loginArgs | extraArgs => List String
  | kubeContext => Option String
  | syncTimeoutSeconds | retryLimit => UInt32
  | syncPolicy => Option SyncPolicy
  | preDeploySteps | postDeploySteps => List Step
  | extraDeployJobs => Jobs
  | env => Variables
  | secrets => SecretsPolicy

/-- The value where no level sets one. -/
def fallback : (f : Setting) → f.Value
  | space | hostname => ""
  | loginArgs | extraArgs => []
  | kubeContext => none
  | syncTimeoutSeconds => 300
  | retryLimit => 3
  | syncPolicy => none
  | preDeploySteps | postDeploySteps => []
  | extraDeployJobs | env => .empty
  | secrets => .inherit

/-- What a level gives, empty values included. -/
def Gives : (f : Setting) → Level → f.Value → Prop
  | space, l, v => l.space = some v
  | hostname, l, v => l.controller.hostname = some v
  | loginArgs, l, v => l.controller.loginArgs = v
  | extraArgs, l, v => l.controller.extraArgs = v
  | kubeContext, l, v => l.controller.kubeContext = v
  | syncTimeoutSeconds, l, v => l.controller.syncTimeoutSeconds = some v
  | retryLimit, l, v => l.controller.retryLimit = some v
  | syncPolicy, l, v => l.controller.syncPolicy = v
  | preDeploySteps, l, v => l.ci.preDeploySteps = v
  | postDeploySteps, l, v => l.ci.postDeploySteps = v
  | extraDeployJobs, l, v => l.ci.extraDeployJobs = v
  | env, l, v => l.ci.env = v
  | secrets, l, v => l.ci.secrets = some v

/-- Texts, lists and maps count unless they are empty, numbers and policies always. -/
def IsSet : (f : Setting) → f.Value → Prop
  | space, v | hostname, v => v ≠ ""
  | loginArgs, v | extraArgs, v => v ≠ []
  | kubeContext, v => v ≠ none ∧ v ≠ some ""
  | syncTimeoutSeconds, _ | retryLimit, _ => True
  | syncPolicy, v => v ≠ none
  | preDeploySteps, v | postDeploySteps, v => v ≠ []
  | extraDeployJobs, v => v ≠ .empty
  | env, v => v ≠ .empty
  | secrets, _ => True

/-- A level sets the setting to a value. -/
def Sets (f : Setting) (l : Level) (v : f.Value) : Prop := f.Gives l v ∧ f.IsSet v

/-- The setting among resolved values. -/
def read (space : Resolved String) (settings : ResolvedSettings) :
    (f : Setting) → Resolved f.Value
  | .space => space
  | hostname => settings.hostname
  | loginArgs => settings.loginArgs
  | extraArgs => settings.extraArgs
  | kubeContext => settings.kubeContext
  | syncTimeoutSeconds => settings.syncTimeoutSeconds
  | retryLimit => settings.retryLimit
  | syncPolicy => settings.syncPolicy
  | preDeploySteps => settings.preDeploySteps
  | postDeploySteps => settings.postDeploySteps
  | extraDeployJobs => settings.extraDeployJobs
  | env => settings.env
  | secrets => settings.secrets

/-- Resolved values are told apart by some setting. -/
theorem eq_of_read_eq {space space' : Resolved String} {settings settings' : ResolvedSettings}
    (h : ∀ f, read space settings f = read space' settings' f) :
    space = space' ∧ settings = settings' := by
  refine ⟨h .space, ?_⟩
  cases settings
  cases settings'
  rw [ResolvedSettings.mk.injEq]
  exact ⟨h .hostname, h .loginArgs, h .extraArgs, h .kubeContext, h .syncTimeoutSeconds,
    h .retryLimit, h .syncPolicy, h .preDeploySteps, h .postDeploySteps, h .extraDeployJobs,
    h .env, h .secrets⟩

theorem Gives.unique {f : Setting} {l : Level} {v w : f.Value} (hv : f.Gives l v)
    (hw : f.Gives l w) : v = w := by
  cases f <;> simp_all [Gives]

end Setting

/-- A setting of a destination. -/
def ResolvedDestination.get (d : ResolvedDestination) (f : Setting) : Resolved f.Value :=
  Setting.read d.space d.settings f

/-- A setting of a group. -/
def ResolvedGroup.get (g : ResolvedGroup) (f : Setting) : Resolved f.Value :=
  Setting.read g.space g.settings f

/-! ## The first level that sets a value -/

/-- The value that the first of some levels sets, with that level, and the default if none does. -/
inductive FirstSet {α : Type} (Sets : Level → α → Prop) (default : α) : Chain → Resolved α → Prop
  | default : FirstSet Sets default [] ⟨default, .default⟩
  | here {origin : Origin} {l : Level} {rest : Chain} {v : α} :
    Sets l v → FirstSet Sets default ((origin, l) :: rest) ⟨v, origin⟩
  | above {origin : Origin} {l : Level} {rest : Chain} {r : Resolved α} :
    (∀ v, ¬ Sets l v) → FirstSet Sets default rest r → FirstSet Sets default ((origin, l) :: rest) r

/-- The nearest value of a setting along a chain. -/
def Setting.Nearest (f : Setting) : Chain → Resolved f.Value → Prop := FirstSet f.Sets f.fallback

section FirstSet

variable {α : Type} {Sets : Level → α → Prop} {default : α} {chain : Chain} {r r' : Resolved α}

/-- **There is one first level.** -/
theorem FirstSet.unique (hs : ∀ l v w, Sets l v → Sets l w → v = w)
    (h : FirstSet Sets default chain r) (h' : FirstSet Sets default chain r') : r = r' := by
  induction h with
  | default =>
    cases h'
    rfl
  | here hv =>
    cases h' with
    | here hw => rw [hs _ _ _ hv hw]
    | above hn => exact absurd hv (hn _)
  | above hn _ ih =>
    cases h' with
    | here hw => exact absurd hw (hn _)
    | above _ h' => exact ih h'

theorem FirstSet.of_not {origin : Origin} {l : Level} (hn : ∀ v, ¬ Sets l v)
    (h : FirstSet Sets default ((origin, l) :: chain) r) : FirstSet Sets default chain r := by
  cases h with
  | here hv => exact absurd hv (hn _)
  | above _ h => exact h

/-- Either a level sets the value, or none does and the default is left. -/
theorem FirstSet.cases_value (h : FirstSet Sets default chain r) :
    (∃ x ∈ chain, Sets x.2 r.value) ∨
      (∀ x ∈ chain, ∀ v, ¬ Sets x.2 v) ∧ r = ⟨default, .default⟩ := by
  induction h with
  | default => exact .inr ⟨by simp, rfl⟩
  | here hv => exact .inl ⟨_, List.mem_cons_self, hv⟩
  | above hn _ ih =>
    rcases ih with ⟨x, hx, hv⟩ | ⟨hrest, hr⟩
    · exact .inl ⟨x, List.mem_cons_of_mem _ hx, hv⟩
    · exact .inr ⟨List.forall_mem_cons.mpr ⟨hn, hrest⟩, hr⟩

theorem firstSet_of_forall_not (h : ∀ x ∈ chain, ∀ v, ¬ Sets x.2 v) :
    FirstSet Sets default chain ⟨default, .default⟩ := by
  induction chain with
  | nil => exact .default
  | cons x rest ih =>
    obtain ⟨hx, hrest⟩ := List.forall_mem_cons.mp h
    exact .above hx (ih hrest)

variable {β : Type} [Presence β] {give : Level → Option β} {found : β → α}

/-- **The search finds the first level**, if it looks for the values that count as set. -/
theorem firstSet_nearest?
    (hs : ∀ l v, Sets l v ↔ ∃ b, give l = some b ∧ Presence.isSet b = true ∧ found b = v)
    (chain : Chain) : FirstSet Sets default chain
      ((nearest? (chain.give give)).map fun b => (b.map found).getD default) := by
  induction chain with
  | nil => exact .default
  | cons x rest ih =>
    obtain ⟨origin, l⟩ := x
    have hgive : Chain.give ((origin, l) :: rest) give = (origin, give l) :: Chain.give rest give :=
      rfl
    rw [hgive]
    cases hl : give l with
    | none =>
      refine .above (fun v hv => ?_) ih
      obtain ⟨b, hb, -⟩ := (hs l v).mp hv
      rw [hl] at hb
      cases hb
    | some b =>
      rw [nearest?]
      by_cases hb : Presence.isSet b = true
      · rw [if_pos hb]
        exact .here ((hs l _).mpr ⟨b, hl, hb, rfl⟩)
      · rw [if_neg hb]
        refine .above (fun v hv => ?_) ih
        obtain ⟨c, hc, hset, -⟩ := (hs l v).mp hv
        rw [hl, Option.some_inj] at hc
        exact hb (hc ▸ hset)

end FirstSet

namespace Setting

theorem Sets.unique (f : Setting) (l : Level) (v w : f.Value) (hv : f.Sets l v)
    (hw : f.Sets l w) : v = w := hv.1.unique hw.1

theorem Nearest.unique {f : Setting} {chain : Chain} {r r' : Resolved f.Value}
    (h : f.Nearest chain r) (h' : f.Nearest chain r') : r = r' :=
  FirstSet.unique (Sets.unique f) h h'

section Found

variable {α : Type} [Presence α] {give : Level → Option α}

/-- A search whose values are settings as they stand. -/
theorem firstSet_nearest {Sets : Level → α → Prop} {default : α}
    (hs : ∀ l v, Sets l v ↔ give l = some v ∧ Presence.isSet v = true) (chain : Chain) :
    FirstSet Sets default chain (nearest (chain.give give) default) := by
  have h : FirstSet Sets default chain
      ((nearest? (chain.give give)).map fun b => (b.map id).getD default) :=
    firstSet_nearest? (fun l v => by simp [hs]) chain
  unfold nearest
  simpa only [Option.map_id_fun, id] using h

/-- A search for a value that may be left out in the end. -/
theorem firstSet_nearest?_some {Sets : Level → Option α → Prop}
    (hs : ∀ l v, Sets l v ↔ ∃ b, give l = some b ∧ Presence.isSet b = true ∧ some b = v)
    (chain : Chain) : FirstSet Sets none chain (nearest? (chain.give give)) := by
  have h : FirstSet Sets none chain
      ((nearest? (chain.give give)).map fun b => (b.map some).getD none) :=
    firstSet_nearest? hs chain
  have hid : (fun b : Option α => (b.map some).getD none) = id := by
    funext b
    cases b <;> rfl
  rw [hid] at h
  exact h

end Found

/-- **A chain yields the nearest value of every setting.** -/
theorem nearest_read (f : Setting) (chain : Chain) :
    f.Nearest chain (f.read chain.space chain.settings) := by
  cases f with
  | space | hostname | loginArgs | extraArgs | preDeploySteps | postDeploySteps | extraDeployJobs
  | env | syncTimeoutSeconds | retryLimit | secrets =>
    exact firstSet_nearest (fun l v => by simp [Sets, Gives, IsSet, Presence.isSet]) chain
  | kubeContext | syncPolicy =>
    refine firstSet_nearest?_some (fun l v => ?_) chain
    cases v <;> simp [Sets, Gives, IsSet, Presence.isSet]

end Setting

/-! ## Trees -/

/-- The value given, unless it is missing or blank. -/
def GivenOr {α : Type} (given : Option α) (blank fallback v : α) : Prop :=
  given = some v ∧ v ≠ blank ∨ (∀ w, given = some w → w = blank) ∧ v = fallback

theorem GivenOr.unique {α : Type} {given : Option α} {blank fallback v w : α}
    (hv : GivenOr given blank fallback v) (hw : GivenOr given blank fallback w) : v = w := by
  rcases hv with ⟨hv, hvb⟩ | ⟨hn, rfl⟩
  · rcases hw with ⟨hw, -⟩ | ⟨hn, -⟩
    · exact Option.some_inj.mp (hv.symm.trans hw)
    · exact absurd (hn v hv) hvb
  · rcases hw with ⟨hw, hwb⟩ | ⟨-, rfl⟩
    · exact absurd (hn w hw) hwb
    · rfl

/-- The destination has the cluster as authored and the nearest value of every setting. What it
does not set itself, it has from its group. -/
structure Destination.Cascaded (s : Service) (g : Group) (rg : ResolvedGroup) (d : Destination)
    (r : ResolvedDestination) : Prop where
  name : r.name = d.name
  server : r.server = d.server
  nearest : ∀ f : Setting, f.Nearest
    [(.destination, ⟨d.space, d.controller, d.ci⟩), (.group, ⟨g.space, g.controller, g.ci⟩),
      (.service, ⟨s.space, s.controller, s.ci.settings⟩)] (r.get f)
  inherited : ∀ f : Setting, (∀ v, ¬ f.Sets ⟨d.space, d.controller, d.ci⟩ v) →
    r.get f = rg.get f

/-- The group has the nearest value of every setting, and its destinations in authored order. -/
structure Group.Cascaded (s : Service) (g : Group) (r : ResolvedGroup) : Prop where
  name : r.name = g.name
  nearest : ∀ f : Setting, f.Nearest
    [(.group, ⟨g.space, g.controller, g.ci⟩), (.service, ⟨s.space, s.controller, s.ci.settings⟩)]
    (r.get f)
  destinations : List.Forall₂ (Destination.Cascaded s g r) g.destinations r.destinations

/-- The source block has what is given and otherwise its defaults. -/
structure Source.Defaulted (s : Source) (r : ResolvedSource) : Prop where
  path : GivenOr s.path "" "." r.path
  commitBranch : GivenOr s.commitBranch "" "main" r.commitBranch
  included : GivenOr s.included "" "\x7b*.yml,*.yaml\x7d" r.included
  excluded : ∀ v, r.excluded = some v ↔ s.excluded = some v ∧ v ≠ ""

/-- The service has its groups in authored order, with the nearest value of every setting. -/
structure Service.Cascaded (s : Service) (r : ResolvedService) : Prop where
  name : r.name = s.name
  naming : r.naming = s.naming
  source : s.source.Defaulted r.source
  triggers : GivenOr s.ci.triggers {} .byHand r.triggers
  groups : List.Forall₂ (Group.Cascaded s) s.groups r.groups

section Tree

variable {s : Service} {g : Group} {d : Destination}

theorem filled?_eq_some_iff {given : Option String} {v : String} :
    filled? given = some v ↔ given = some v ∧ v ≠ "" := by
  unfold filled?
  rw [Option.filter_eq_some_iff]
  simp

theorem givenOr_filled? (given : Option String) (fallback : String) :
    GivenOr given "" fallback ((filled? given).getD fallback) := by
  cases h : filled? given with
  | some v => exact .inl (filled?_eq_some_iff.mp h)
  | none =>
    refine .inr ⟨fun w hw => ?_, rfl⟩
    by_contra hne
    rw [filled?_eq_some_iff.mpr ⟨hw, hne⟩] at h
    cases h

theorem defaulted_resolve (s : Source) : s.Defaulted s.resolve where
  path := givenOr_filled? _ _
  commitBranch := givenOr_filled? _ _
  included := givenOr_filled? _ _
  excluded _ := filled?_eq_some_iff

theorem isEmpty_triggers_iff {t : Triggers} : t.isEmpty = true ↔ t = {} := by
  obtain ⟨push, dispatch, call⟩ := t
  simp [Triggers.isEmpty, and_assoc]

theorem givenOr_topTriggers (ci : ServiceCi) : GivenOr ci.triggers {} .byHand ci.topTriggers := by
  unfold ServiceCi.topTriggers
  cases ci.triggers with
  | none => exact .inr ⟨fun w hw => (by cases hw), rfl⟩
  | some t =>
    dsimp only
    split
    · rename_i ht
      exact .inr ⟨fun w hw => Option.some_inj.mp hw ▸ isEmpty_triggers_iff.mp ht, rfl⟩
    · rename_i ht
      exact .inl ⟨rfl, fun he => ht (isEmpty_triggers_iff.mpr he)⟩

theorem nearest_group (s : Service) (g : Group) (f : Setting) :
    f.Nearest (groupChain s g) ((g.resolve s).get f) := f.nearest_read _

theorem nearest_destination (s : Service) (g : Group) (d : Destination) (f : Setting) :
    f.Nearest (destinationChain s g d) ((d.resolve s g).get f) := f.nearest_read _

-- A number counts even if it is zero, an empty text does not.
example :
    let d : Destination := { space := some "", controller := { retryLimit := some 0 } }
    let r := d.resolve { space := some "shop" } {}
    r.get .retryLimit = ⟨0, .destination⟩ ∧ r.get .space = ⟨"shop", .service⟩ := ⟨rfl, rfl⟩

theorem cascaded_destination (s : Service) (g : Group) (d : Destination) :
    d.Cascaded s g (g.resolve s) (d.resolve s g) := by
  refine ⟨rfl, rfl, nearest_destination s g d, fun f hn => ?_⟩
  -- without the destination its chain is that of the group
  have h : f.Nearest (groupChain s g) ((d.resolve s g).get f) :=
    (nearest_destination s g d f).of_not hn
  exact h.unique (nearest_group s g f)

theorem cascaded_group (s : Service) (g : Group) : g.Cascaded s (g.resolve s) where
  name := rfl
  nearest := nearest_group s g
  destinations := by
    unfold Group.resolve
    rw [List.forall₂_map_right_iff, List.forall₂_same]
    exact fun d _ => cascaded_destination s g d

theorem cascaded_resolve (s : Service) : s.Cascaded s.resolve where
  name := rfl
  naming := rfl
  source := defaulted_resolve s.source
  triggers := givenOr_topTriggers s.ci
  groups := by
    unfold Service.resolve
    rw [List.forall₂_map_right_iff, List.forall₂_same]
    exact fun g _ => cascaded_group s g

/-! ## There is no other tree -/

theorem map_eq_map_of_forall₂ {α β γ : Type} {R : α → β → Prop} {f : α → γ} {g : β → γ}
    {xs : List α} {ys : List β} (h : List.Forall₂ R xs ys) (hf : ∀ x y, R x y → g y = f x) :
    ys.map g = xs.map f := by
  induction h with
  | nil => rfl
  | cons hxy _ ih => rw [List.map_cons, List.map_cons, hf _ _ hxy, ih]

theorem eq_map_of_forall₂ {α β : Type} {R : α → β → Prop} {f : α → β} {xs : List α} {ys : List β}
    (h : List.Forall₂ R xs ys) (hf : ∀ x y, R x y → y = f x) : ys = xs.map f :=
  (List.map_id ys).symm.trans (map_eq_map_of_forall₂ h hf)

theorem Destination.Cascaded.eq_resolve {rg : ResolvedGroup} {r : ResolvedDestination}
    (h : d.Cascaded s g rg r) : r = d.resolve s g := by
  have hr := cascaded_destination s g d
  obtain ⟨hspace, hsettings⟩ :=
    Setting.eq_of_read_eq fun f => (h.nearest f).unique (hr.nearest f)
  cases r
  rw [ResolvedDestination.mk.injEq]
  exact ⟨h.name, h.server, hspace, hsettings⟩

theorem Group.Cascaded.eq_resolve {r : ResolvedGroup} (h : g.Cascaded s r) :
    r = g.resolve s := by
  have hr := cascaded_group s g
  obtain ⟨hspace, hsettings⟩ :=
    Setting.eq_of_read_eq fun f => (h.nearest f).unique (hr.nearest f)
  have hds : r.destinations = g.destinations.map (·.resolve s g) :=
    eq_map_of_forall₂ h.destinations fun _ _ hd => hd.eq_resolve
  cases r
  rw [ResolvedGroup.mk.injEq]
  exact ⟨h.name, hspace, hsettings, hds⟩

theorem Source.Defaulted.unique {source : Source} {r r' : ResolvedSource}
    (h : source.Defaulted r) (h' : source.Defaulted r') : r = r' := by
  have hexcluded : r.excluded = r'.excluded :=
    Option.ext fun v => (h.excluded v).trans (h'.excluded v).symm
  cases r
  rw [ResolvedSource.mk.injEq]
  exact ⟨h.path.unique h'.path, h.commitBranch.unique h'.commitBranch,
    h.included.unique h'.included, hexcluded⟩

/-- **The nearest level wins, for every setting in every place**, and resolution yields the one
tree in which it does. -/
theorem resolve_eq_iff_cascaded {r : ResolvedService} : s.resolve = r ↔ s.Cascaded r := by
  constructor
  · rintro rfl
    exact cascaded_resolve s
  · intro h
    have hr := cascaded_resolve s
    have hgs : r.groups = s.groups.map (·.resolve s) :=
      eq_map_of_forall₂ h.groups fun _ _ hg => hg.eq_resolve
    refine Eq.symm ?_
    cases r
    rw [Service.resolve, ResolvedService.mk.injEq]
    exact ⟨h.name, h.source.unique hr.source, h.naming, h.triggers.unique hr.triggers, hgs⟩

end Tree

end Rollout
