import Rollout.Application.Codec
import Rollout.Proofs.Document.Faithful

/-!
# Reading back records

A record is read back from the fields that were written. A field that is left out keeps what the
blank record has there, which has to be the very value that is left out.

* `RecordField.restore`: what one written field adds to a record.
* `Schema.Lawful`, **`Schema.Lawful.faithful`**: no field takes the key of another one, required
  fields are written, and the written fields restore every record from the blank one.
* `decode_encode`: every service, workflow and application comes back.
-/

namespace Rollout

variable {ρ τ : Type}

/-! ## One field -/

namespace RecordField

/-- Reads the field of `x` back into `y`, if it is written. -/
def restore (f : RecordField ρ) (d : Dialect) (x y : ρ) : Except Fault ρ :=
  match f.encode x with
  | some v => f.decode d (.ofValue v) y
  | none => .ok y

variable {name : String} {c : Codec τ} {d : Dialect} {x y : ρ}

@[simp] theorem restore_mandatory (hc : c.Faithful) {get : ρ → τ} {set : τ → ρ → ρ} :
    (mandatory name c get set).restore d x y = .ok (set (get x) y) := by
  simp only [restore, mandatory, hc d (get x)]
  rfl

@[simp] theorem restore_defaulted (hc : c.Faithful) {get : ρ → τ} {set : τ → ρ → ρ} :
    (defaulted name c get set).restore d x y = .ok (set (get x) y) := by
  show (mandatory name c get set).restore d x y = _
  exact restore_mandatory hc

@[simp] theorem restore_optional (hc : c.Faithful) (hs : c.Solid) {get : ρ → Option τ}
    {set : Option τ → ρ → ρ} (hy : set none y = y) :
    (optional name c get set).restore d x y = .ok (set (get x) y) := by
  cases hx : get x with
  | none => simp only [restore, optional, hx, Option.map_none, hy]
  | some v =>
    simp only [restore, optional, hx, Option.map_some, Codec.option_decode_some hc hs d v]
    rfl

@[simp] theorem restore_items (hc : c.Faithful) {get : ρ → List τ} {set : List τ → ρ → ρ}
    (hy : set [] y = y) : (items name c get set).restore d x y = .ok (set (get x) y) := by
  by_cases hx : get x = []
  · simp only [restore, items, hx, List.isEmpty_nil, if_pos, hy]
  · have he : ¬ (get x).isEmpty = true := by simpa using hx
    simp only [restore, items, if_neg he, Codec.list_faithful hc d (get x)]
    rfl

@[simp] theorem restore_entries (hc : c.Faithful) {get : ρ → OrderedMap String τ}
    {set : OrderedMap String τ → ρ → ρ} (hy : set .empty y = y) :
    (entries name c get set).restore d x y = .ok (set (get x) y) := by
  by_cases hx : get x = .empty
  · simp only [restore, entries, hx, hy]
    rfl
  · have he : (get x).isEmpty = false := OrderedMap.isEmpty_eq_false_iff.mpr hx
    simp only [restore, entries, he, Bool.false_eq_true, if_false, Codec.map_faithful hc d (get x)]
    rfl

/-- A second name only matters to what is understood. -/
@[simp] theorem restore_other {f : RecordField ρ} {other? : Option String} :
    ({ f with other? } : RecordField ρ).restore d x y = f.restore d x y := rfl

/-- The field is always written if a document has to give it. -/
def Present (f : RecordField ρ) : Prop := f.required = true → ∀ x, (f.encode x).isSome

@[simp] theorem mandatory_present {get : ρ → τ} {set : τ → ρ → ρ} :
    (mandatory name c get set).Present := fun _ _ => rfl

@[simp] theorem defaulted_present {get : ρ → τ} {set : τ → ρ → ρ} :
    (defaulted name c get set).Present := fun _ _ => rfl

@[simp] theorem optional_present {get : ρ → Option τ} {set : Option τ → ρ → ρ} :
    (optional name c get set).Present := fun h => Bool.noConfusion h

@[simp] theorem items_present {get : ρ → List τ} {set : List τ → ρ → ρ} :
    (items name c get set).Present := fun h => Bool.noConfusion h

@[simp] theorem entries_present {get : ρ → OrderedMap String τ}
    {set : OrderedMap String τ → ρ → ρ} : (entries name c get set).Present :=
  fun h => Bool.noConfusion h

@[simp] theorem other_present_iff {f : RecordField ρ} {other? : Option String} :
    ({ f with other? } : RecordField ρ).Present ↔ f.Present := .rfl

end RecordField

/-! ## All fields -/

namespace Schema

/-- Reads the written fields of `x` back into `y`, in order. -/
def restore (d : Dialect) (x : ρ) : List (RecordField ρ) → ρ → Except Fault ρ
  | [], y => .ok y
  | f :: fs, y => do restore d x fs (← f.restore d x y)

/-- What makes a record come back from its written fields. -/
structure Lawful (s : Schema ρ) : Prop where
  /-- No field takes the key of a later one. -/
  distinct : s.fields.Pairwise fun f g => f.isNamed g.name = false
  /-- A field that must be given is always written. -/
  written : ∀ f ∈ s.fields, f.Present
  /-- The written fields restore the record. -/
  restored : ∀ d x, restore d x s.fields s.blank = .ok x

variable {s : Schema ρ}

theorem isNamed_self (f : RecordField ρ) : f.isNamed f.name = true := by
  simp [RecordField.isNamed]

/-- The key under which a field is written stands for that field. -/
theorem Lawful.select (h : s.Lawful) (d : Dialect) {before after : List (RecordField ρ)}
    {f : RecordField ρ} (hf : s.fields = before ++ f :: after) :
    s.select d (.text f.name) = .ok (some f) := by
  have hb : before.find? (·.isNamed f.name) = none := by
    rw [List.find?_eq_none]
    intro g hg
    simp [(List.pairwise_append.mp (hf ▸ h.distinct)).2.2 g hg f List.mem_cons_self]
  have hfind : s.fields.find? (·.isNamed f.name) = some f := by
    rw [hf, List.find?_append, hb, List.find?_cons, isNamed_self]
    rfl
  cases d <;> simp only [Schema.select, Node.asText, bind_ok, hfind] <;> rfl

/-- What is known of the names `seen` once the fields `before` were passed. -/
structure Seen (before : List (RecordField ρ)) (seen : List String) : Prop where
  required : ∀ f ∈ before, f.required = true → f.name ∈ seen
  known : ∀ n ∈ seen, ∃ f ∈ before, f.name = n

variable {before fs : List (RecordField ρ)} {f : RecordField ρ} {seen : List String}

theorem Seen.nil : Seen ([] : List (RecordField ρ)) [] := ⟨by simp, by simp⟩

theorem Seen.leave (h : Seen before seen) (hf : ¬ f.required = true) :
    Seen (before ++ [f]) seen where
  required g hg hr := by
    rcases List.mem_append.mp hg with hg | hg
    · exact h.required g hg hr
    · exact absurd (List.mem_singleton.mp hg ▸ hr) hf
  known n hn := by
    obtain ⟨g, hg, hgn⟩ := h.known n hn
    exact ⟨g, List.mem_append_left _ hg, hgn⟩

theorem Seen.read (h : Seen before seen) (f : RecordField ρ) :
    Seen (before ++ [f]) (f.name :: seen) where
  required g hg hr := by
    rcases List.mem_append.mp hg with hg | hg
    · exact List.mem_cons_of_mem _ (h.required g hg hr)
    · exact List.mem_singleton.mp hg ▸ List.mem_cons_self
  known n hn := by
    rcases List.mem_cons.mp hn with rfl | hn
    · exact ⟨f, by simp, rfl⟩
    · obtain ⟨g, hg, hgn⟩ := h.known n hn
      exact ⟨g, List.mem_append_left _ hg, hgn⟩

theorem Lawful.not_seen (h : s.Lawful) (hf : s.fields = before ++ f :: fs)
    (hs : Seen before seen) : ¬ seen.contains f.name = true := by
  intro hm
  obtain ⟨g, hg, hgn⟩ := hs.known f.name (by simpa using hm)
  have hgf : g.isNamed f.name = false :=
    (List.pairwise_append.mp (hf ▸ h.distinct)).2.2 g hg f List.mem_cons_self
  rw [← hgn, isNamed_self] at hgf
  exact Bool.noConfusion hgf

/-- Reading on after the fields `before` does what restoring the fields `fs` does. -/
theorem Lawful.decodeEntries (h : s.Lawful) (d : Dialect) (x : ρ) :
    ∀ {before fs : List (RecordField ρ)} {seen : List String} {y z : ρ},
      s.fields = before ++ fs → Seen before seen → restore d x fs y = .ok z →
      s.decodeEntries d (Node.ofFields (Schema.encode ⟨s.blank, fs⟩ x)) seen y = .ok z
  | before, [], seen, y, z, hf, hs, hz => by
    rw [List.append_nil] at hf
    have hall : (s.fields.all fun f => !f.required || seen.contains f.name) = true := by
      rw [List.all_eq_true]
      intro f hm
      cases hr : f.required with
      | false => rfl
      | true => simpa using hs.required f (hf ▸ hm) hr
    show s.decodeEntries d [] seen y = .ok z
    rw [Schema.decodeEntries, if_pos hall]
    exact hz
  | before, f :: fs, seen, y, z, hf, hs, hz => by
    have hf' : s.fields = (before ++ [f]) ++ fs := by rw [hf, List.append_cons]
    rw [restore, bind_eq_ok_iff] at hz
    obtain ⟨w, hw, hz⟩ := hz
    cases hx : f.encode x with
    | none =>
      have hr : ¬ f.required = true := fun hr => by
        simpa [hx] using h.written f (by simp [hf]) hr x
      have hwy : y = w := by simpa only [RecordField.restore, hx, Except.ok.injEq] using hw
      have he : Schema.encode ⟨s.blank, f :: fs⟩ x = Schema.encode ⟨s.blank, fs⟩ x := by
        simp [Schema.encode, hx]
      rw [he, hwy]
      exact Lawful.decodeEntries h d x hf' (hs.leave hr) hz
    | some v =>
      have hd : f.decode d (.ofValue v) y = .ok w := by
        simpa only [RecordField.restore, hx] using hw
      have he : Schema.encode ⟨s.blank, f :: fs⟩ x
          = (f.name, v) :: Schema.encode ⟨s.blank, fs⟩ x := by
        simp [Schema.encode, hx]
      rw [he, Node.ofFields, Schema.decodeEntries, h.select d hf, bind_ok]
      simp only [if_neg (h.not_seen hf hs), hd, bind_ok]
      exact Lawful.decodeEntries h d x hf' (hs.read f) hz

/-- **A lawful record comes back from its document.** -/
theorem Lawful.faithful (h : s.Lawful) : s.codec.Faithful := by
  intro d x
  show s.decode d (.ofValue (.object (s.encode x))) = .ok x
  rw [Node.ofValue, Schema.decode]
  exact h.decodeEntries d x (List.nil_append _).symm .nil (h.restored d x)

@[simp] theorem codec_solid : s.codec.Solid := fun _ => Value.noConfusion

end Schema

/-! ## Workflows -/

@[simp] theorem Step.codec_faithful : Step.schema.codec.Faithful :=
  Schema.Lawful.faithful ⟨by decide, by simp [Step.schema],
    fun d x => by simp [Step.schema, Schema.restore, bind_ok]⟩

@[simp] theorem Concurrency.codec_faithful : Concurrency.schema.codec.Faithful :=
  Schema.Lawful.faithful ⟨by decide, by simp [Concurrency.schema],
    fun d x => by simp [Concurrency.schema, Schema.restore, bind_ok]⟩

@[simp] theorem RunDefaults.codec_faithful : RunDefaults.schema.codec.Faithful :=
  Schema.Lawful.faithful ⟨by decide, by simp [RunDefaults.schema],
    fun d x => by simp [RunDefaults.schema, Schema.restore, bind_ok]⟩

@[simp] theorem Defaults.codec_faithful : Defaults.schema.codec.Faithful :=
  Schema.Lawful.faithful ⟨by decide, by simp [Defaults.schema],
    fun d x => by simp [Defaults.schema, Schema.restore, bind_ok]⟩

@[simp] theorem Job.codec_faithful : Job.schema.codec.Faithful :=
  Schema.Lawful.faithful ⟨by decide, by simp [Job.schema],
    fun d x => by simp [Job.schema, Schema.restore, bind_ok]⟩

@[simp] theorem PushTrigger.codec_faithful : PushTrigger.schema.codec.Faithful :=
  Schema.Lawful.faithful ⟨by decide, by simp [PushTrigger.schema],
    fun d x => by simp [PushTrigger.schema, Schema.restore, bind_ok]⟩

@[simp] theorem DispatchTrigger.codec_faithful : DispatchTrigger.schema.codec.Faithful :=
  Schema.Lawful.faithful ⟨by decide, by simp [DispatchTrigger.schema],
    fun d x => by simp [DispatchTrigger.schema, Schema.restore, bind_ok]⟩

@[simp] theorem CallTrigger.codec_faithful : CallTrigger.schema.codec.Faithful :=
  Schema.Lawful.faithful ⟨by decide, by simp [CallTrigger.schema],
    fun d x => by simp [CallTrigger.schema, Schema.restore, bind_ok]⟩

@[simp] theorem Triggers.codec_faithful : Triggers.schema.codec.Faithful :=
  Schema.Lawful.faithful ⟨by decide, by simp [Triggers.schema],
    fun d x => by simp [Triggers.schema, Schema.restore, bind_ok]⟩

@[simp] theorem Workflow.codec_faithful : Workflow.schema.codec.Faithful :=
  Schema.Lawful.faithful ⟨by decide, by simp [Workflow.schema],
    fun d x => by simp [Workflow.schema, Schema.restore, bind_ok]⟩

/-! ## Settings -/

@[simp] theorem AutomatedSync.codec_faithful : AutomatedSync.schema.codec.Faithful :=
  Schema.Lawful.faithful ⟨by decide, by simp [AutomatedSync.schema],
    fun d x => by simp [AutomatedSync.schema, Schema.restore, bind_ok]⟩

@[simp] theorem SyncPolicy.codec_faithful : SyncPolicy.schema.codec.Faithful :=
  Schema.Lawful.faithful ⟨by decide, by simp [SyncPolicy.schema],
    fun d x => by simp [SyncPolicy.schema, Schema.restore, bind_ok]⟩

@[simp] theorem ControllerSettings.codec_faithful : ControllerSettings.schema.codec.Faithful :=
  Schema.Lawful.faithful ⟨by decide, by simp [ControllerSettings.schema],
    fun d x => by simp [ControllerSettings.schema, Schema.restore, bind_ok]⟩

@[simp] theorem CiSettings.codec_faithful : CiSettings.schema.codec.Faithful :=
  Schema.Lawful.faithful ⟨by decide, by simp [CiSettings.schema],
    fun d x => by simp [CiSettings.schema, Schema.restore, bind_ok]⟩

/-! ## The CI block of a service -/

namespace ServiceCi

/-- No setting is written under the key of the triggers. -/
theorem ne_on_of_mem_encode {x : CiSettings} {e : String × Value}
    (he : e ∈ CiSettings.schema.encode x) : e.1 ≠ "on" := by
  have hn : ∀ f ∈ CiSettings.schema.fields, f.name ≠ "on" := by decide
  obtain ⟨f, hf, hfe⟩ := List.mem_filterMap.mp he
  obtain ⟨v, -, rfl⟩ := Option.map_eq_some_iff.mp hfe
  exact hn f hf

/-- Entries that are no triggers are put aside as they are. -/
theorem decodeEntries_aside (d : Dialect) {t : Option (Option Triggers)}
    {rest : List (Node × Node)} : ∀ {fs : List (String × Value)} {aside : List (Node × Node)},
    (∀ e ∈ fs, e.1 ≠ "on") → decodeEntries d (Node.ofFields fs ++ rest) aside t
      = decodeEntries d rest (aside ++ Node.ofFields fs) t
  | [], aside, _ => by rw [Node.ofFields, List.nil_append, List.append_nil]
  | (k, v) :: fs, aside, h => by
    have hk : ¬ k = "on" := h (k, v) List.mem_cons_self
    have hfs : decodeEntries d (Node.ofFields fs ++ rest) (aside ++ [(.text k, .ofValue v)]) t
        = decodeEntries d rest (aside ++ [(.text k, .ofValue v)] ++ Node.ofFields fs) t :=
      decodeEntries_aside d fun e he => h e (List.mem_cons_of_mem _ he)
    simp only [Node.ofFields, List.cons_append, decodeEntries, Node.asText, bind_ok, if_neg hk,
      Node.settle_ofValue, hfs, List.append_assoc, List.nil_append]

/-- **The settings and the triggers of a CI block are told apart.** -/
@[simp] theorem codec_faithful : codec.Faithful := by
  rintro d ⟨settings, triggers⟩
  show decode d (.ofValue (encode ⟨settings, triggers⟩)) = .ok ⟨settings, triggers⟩
  have hs : CiSettings.schema.decode .settled
      (.map (Node.ofFields (CiSettings.schema.encode settings))) = .ok settings :=
    CiSettings.codec_faithful .settled settings
  rw [encode, Node.ofValue, decode, Node.ofFields_append,
    decodeEntries_aside d fun e => ne_on_of_mem_encode, List.nil_append]
  cases triggers with
  | none =>
    simp only [Option.map_none, Option.toList_none, Node.ofFields, decodeEntries, hs]
    rfl
  | some t =>
    have ht := Codec.option_decode_some Triggers.codec_faithful Schema.codec_solid d t
    simp only [Option.map_some, Option.toList_some, Node.ofFields, decodeEntries, Node.asText,
      bind_ok, if_true, Option.isSome_none, Bool.false_eq_true, if_false, ht, hs]
    rfl

end ServiceCi

/-! ## Services -/

@[simp] theorem Destination.codec_faithful : Destination.schema.codec.Faithful :=
  Schema.Lawful.faithful ⟨by decide, by simp [Destination.schema],
    fun d x => by simp [Destination.schema, Schema.restore, bind_ok]⟩

@[simp] theorem Group.codec_faithful : Group.schema.codec.Faithful :=
  Schema.Lawful.faithful ⟨by decide, by simp [Group.schema],
    fun d x => by simp [Group.schema, Schema.restore, bind_ok]⟩

@[simp] theorem NamingScheme.codec_faithful : NamingScheme.schema.codec.Faithful :=
  Schema.Lawful.faithful ⟨by decide, by simp [NamingScheme.schema],
    fun d x => by simp [NamingScheme.schema, Schema.restore, bind_ok]⟩

@[simp] theorem Source.codec_faithful : Source.schema.codec.Faithful :=
  Schema.Lawful.faithful ⟨by decide, by simp [Source.schema],
    fun d x => by simp [Source.schema, Schema.restore, bind_ok]⟩

@[simp] theorem Service.codec_faithful : Service.schema.codec.Faithful :=
  Schema.Lawful.faithful ⟨by decide, by simp [Service.schema],
    fun d x => by simp [Service.schema, Schema.restore, bind_ok]⟩

/-! ## Applications -/

@[simp] theorem ObjectMeta.codec_faithful : ObjectMeta.schema.codec.Faithful :=
  Schema.Lawful.faithful ⟨by decide, by simp [ObjectMeta.schema],
    fun d x => by simp [ObjectMeta.schema, Schema.restore, bind_ok]⟩

@[simp] theorem SourceDirectory.codec_faithful : SourceDirectory.schema.codec.Faithful :=
  Schema.Lawful.faithful ⟨by decide, by simp [SourceDirectory.schema],
    fun d x => by simp [SourceDirectory.schema, Schema.restore, bind_ok]⟩

@[simp] theorem ApplicationSource.codec_faithful : ApplicationSource.schema.codec.Faithful :=
  Schema.Lawful.faithful ⟨by decide, by simp [ApplicationSource.schema],
    fun d x => by simp [ApplicationSource.schema, Schema.restore, bind_ok]⟩

@[simp] theorem ApplicationTarget.codec_faithful : ApplicationTarget.schema.codec.Faithful :=
  Schema.Lawful.faithful ⟨by decide, by simp [ApplicationTarget.schema],
    fun d x => by simp [ApplicationTarget.schema, Schema.restore, bind_ok]⟩

@[simp] theorem ApplicationSpec.codec_faithful : ApplicationSpec.schema.codec.Faithful :=
  Schema.Lawful.faithful ⟨by decide, by simp [ApplicationSpec.schema],
    fun d x => by simp [ApplicationSpec.schema, Schema.restore, bind_ok]⟩

@[simp] theorem Application.codec_faithful : Application.schema.codec.Faithful :=
  Schema.Lawful.faithful ⟨by decide, by simp [Application.schema],
    fun d x => by simp [Application.schema, Schema.restore, bind_ok]⟩

/-! ## All documents -/

/-- **Every document says all that there is to its record.** Reading undoes writing: for services
with all that they hold, workflows and applications, for the block that holds settings and
triggers side by side, and for the two forms of a secrets policy. -/
theorem decode_encode (d : Dialect) :
    (∀ s : Service, Service.schema.codec.decode d (.ofValue (Service.schema.codec.encode s))
      = .ok s) ∧
    (∀ w : Workflow, Workflow.schema.codec.decode d (.ofValue (Workflow.schema.codec.encode w))
      = .ok w) ∧
    (∀ a : Application,
      Application.schema.codec.decode d (.ofValue (Application.schema.codec.encode a)) = .ok a) ∧
    (∀ c : ServiceCi, ServiceCi.codec.decode d (.ofValue (ServiceCi.codec.encode c)) = .ok c) ∧
    ∀ p : SecretsPolicy, SecretsPolicy.codec.decode d (.ofValue (SecretsPolicy.codec.encode p))
      = .ok p :=
  ⟨Service.codec_faithful d, Workflow.codec_faithful d, Application.codec_faithful d,
    ServiceCi.codec_faithful d, SecretsPolicy.codec_faithful d⟩

end Rollout
