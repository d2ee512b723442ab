import ModalLex.Proofs.Config.Fields
import ModalLex.Proofs.Json.Order
import ModalLex.Proofs.Json.Writing

/-!
# Settings Override Defaults Field by Field

An object of settings may give any of them, in any order and between members that are none.
**Each of the seven settings then has the value that is given for it, or its own default**
(`Overrides`), at both levels: what the log settings leave out has its default, whether other log
settings are given or none. Nothing is refused for what it leaves out or adds. What is refused is
a value of the wrong type (`WellTyped`), and a name that stands for no text (`WellNamed`): names
are compared as texts, and so half of a character makes a name unreadable, even where nobody
asks for it. The value behind an unknown name may be anything.

That a setting is not given twice has to be asked for (`OnceEach`), at both levels.

## Main results

* `LexerConfig.of?_object`: the settings that an object stands for, as a relation.
* `LexerConfig.fields_override_defaults`: when an object is read, what the settings are then, and
  that neither the order nor unknown members matter.
* `LexerConfig.half_character_name_refused`: an object without any setting that is not read.
-/

namespace ModalLex

open Json

/-! ### One setting -/

/-- A setting has the value that is given for it, and its default if none is. -/
def Takes {α : Type} (meaning : Tree → Option α) (given : Option Tree) (default a : α) : Prop :=
  match given with
  | none => a = default
  | some v => meaning v = some a

/-- If a value is given, it is one of the setting's type. -/
def Fits {α : Type} (meaning : Tree → Option α) (given : Option Tree) : Prop :=
  ∀ v, given = some v → (meaning v).isSome = true

/-- What is given can be taken if it is of the setting's type. -/
theorem exists_takes_iff {α : Type} {meaning : Tree → Option α} {given : Option Tree}
    (default : α) : (∃ a, Takes meaning given default a) ↔ Fits meaning given := by
  cases given with
  | none =>
      refine iff_of_true ⟨default, rfl⟩ fun v hv => ?_
      cases hv
  | some v =>
      rw [Fits]
      simp only [Takes, Option.some.injEq, forall_eq', Option.isSome_iff_exists]

variable {ρ α β : Type} {name : String} {meaning : Tree → Option α} {put : ρ → α → ρ}

/-- Filling in a setting and going on, where `d` is what the record holds already. -/
theorem bind_fillWith_eq_some {given : Option Tree} {record result : ρ} {next : ρ → Option ρ}
    {d : α} (hd : put record d = record) :
    ((filling name meaning put).fillWith given record).bind next = some result ↔
      ∃ a, Takes meaning given d a ∧ next (put record a) = some result := by
  cases given with
  | none =>
      constructor
      · intro h
        exact ⟨d, rfl, by rwa [hd]⟩
      · rintro ⟨a, rfl, h⟩
        rwa [hd] at h
  | some v =>
      rw [Filling.fillWith, filling, Option.bind_map, Option.bind_eq_some_iff]
      rfl

/-- Settings that are kept apart can be filled in either order. -/
theorem filling_commutes {name' : String} {meaning' : Tree → Option β} {put' : ρ → β → ρ}
    (h : ∀ record a b, put' (put record a) b = put (put' record b) a) :
    (filling name meaning put).Commutes (filling name' meaning' put') := by
  intro record v w
  cases hv : meaning v <;> cases hw : meaning' w <;> simp [filling, hv, hw, h]

/-! ### The log settings -/

namespace LogConfig

/-- The names of the log settings. -/
def keys : List String := ["global", "compiler", "resolver", "engine", "format"]

/-- What a value for the log settings gives for one of them. In an array it is the place that
tells which one is meant. -/
def givenIn? (log : Tree) (name : String) : Option Tree :=
  match log with
  | .object members => given? members name
  | .array elements => (keys.idxOf? name).bind (elements[·]?)
  | _ => none

/-- The values that may hold log settings: an object, or an array with no more elements than there
are settings. -/
def IsRecord : Tree → Prop
  | .object _ => True
  | .array elements => elements.length ≤ keys.length
  | _ => False

/-- Each of the log settings has the value that is given for it by name, and its default if none
is. -/
structure Overrides (given : String → Option Tree) (log : LogConfig) : Prop where
  global : Takes level? (given "global") .warn log.global
  compiler : Takes ownLevel? (given "compiler") none log.compiler
  resolver : Takes ownLevel? (given "resolver") none log.resolver
  engine : Takes ownLevel? (given "engine") none log.engine
  format : Takes format? (given "format") .compact log.format

/-- The values that are given for log settings are of their types. -/
structure WellTyped (given : String → Option Tree) : Prop where
  global : Fits level? (given "global")
  compiler : Fits ownLevel? (given "compiler")
  resolver : Fits ownLevel? (given "resolver")
  engine : Fits ownLevel? (given "engine")
  format : Fits format? (given "format")

/-- Where nothing is given, every log setting has its default. -/
theorem overrides_none_iff {given : String → Option Tree} {log : LogConfig}
    (h : ∀ name, given name = none) : Overrides given log ↔ log = {} := by
  constructor
  · rintro ⟨hg, hc, hr, he, hf⟩
    rw [h] at hg hc hr he hf
    obtain ⟨global, compiler, resolver, engine, format⟩ := log
    cases hg
    cases hc
    cases hr
    cases he
    cases hf
    rfl
  · rintro rfl
    constructor <;> rw [h] <;> rfl

/-- Only what is given by the names of the log settings counts. -/
theorem Overrides.congr {given given' : String → Option Tree} {log : LogConfig}
    (h : ∀ name ∈ keys, given name = given' name) (ho : Overrides given log) :
    Overrides given' log where
  global := h "global" (by decide) ▸ ho.global
  compiler := h "compiler" (by decide) ▸ ho.compiler
  resolver := h "resolver" (by decide) ▸ ho.resolver
  engine := h "engine" (by decide) ▸ ho.engine
  format := h "format" (by decide) ▸ ho.format

/-- There are log settings with what is given exactly if it is of their types. -/
theorem exists_overrides_iff {given : String → Option Tree} :
    (∃ log, Overrides given log) ↔ WellTyped given := by
  constructor
  · rintro ⟨log, hg, hc, hr, he, hf⟩
    exact ⟨(exists_takes_iff _).mp ⟨_, hg⟩, (exists_takes_iff _).mp ⟨_, hc⟩,
      (exists_takes_iff _).mp ⟨_, hr⟩, (exists_takes_iff _).mp ⟨_, he⟩,
      (exists_takes_iff _).mp ⟨_, hf⟩⟩
  · rintro ⟨hg, hc, hr, he, hf⟩
    obtain ⟨global, hg⟩ := (exists_takes_iff .warn).mpr hg
    obtain ⟨compiler, hc⟩ := (exists_takes_iff none).mpr hc
    obtain ⟨resolver, hr⟩ := (exists_takes_iff none).mpr hr
    obtain ⟨engine, he⟩ := (exists_takes_iff none).mpr he
    obtain ⟨format, hf⟩ := (exists_takes_iff .compact).mpr hf
    exact ⟨⟨global, compiler, resolver, engine, format⟩, hg, hc, hr, he, hf⟩

theorem fillings_commute : fillings.Pairwise Filling.Commutes := by
  simp only [fillings, List.pairwise_cons, List.forall_mem_cons]
  refine ⟨⟨?_, ?_, ?_, ?_, ?_⟩, ⟨?_, ?_, ?_, ?_⟩, ⟨?_, ?_, ?_⟩, ⟨?_, ?_⟩, ?_, .nil⟩
  all_goals first
    | exact filling_commutes fun _ _ _ => rfl
    | exact fun _ h => absurd h List.not_mem_nil

/-- Filling in the log settings in order gives each of them its value or its default, as it does by
name. -/
theorem fillGiven_eq_some (given : Nat → Option Tree) (byName : String → Option Tree)
    {log : LogConfig} (hglobal : given 0 = byName "global")
    (hcompiler : given 1 = byName "compiler") (hresolver : given 2 = byName "resolver")
    (hengine : given 3 = byName "engine") (hformat : given 4 = byName "format") :
    fillGiven fillings given {} = some log ↔ Overrides byName log := by
  simp only [fillings, fillGiven]
  constructor
  · intro h
    obtain ⟨global, hg, h⟩ := (bind_fillWith_eq_some rfl).mp h
    obtain ⟨compiler, hc, h⟩ := (bind_fillWith_eq_some rfl).mp h
    obtain ⟨resolver, hr, h⟩ := (bind_fillWith_eq_some rfl).mp h
    obtain ⟨engine, he, h⟩ := (bind_fillWith_eq_some rfl).mp h
    obtain ⟨format, hf, h⟩ := (bind_fillWith_eq_some rfl).mp h
    obtain rfl := Option.some.inj h
    exact ⟨hglobal ▸ hg, hcompiler ▸ hc, hresolver ▸ hr, hengine ▸ he, hformat ▸ hf⟩
  · rintro ⟨hg, hc, hr, he, hf⟩
    refine (bind_fillWith_eq_some rfl).mpr ⟨log.global, hglobal ▸ hg, ?_⟩
    refine (bind_fillWith_eq_some rfl).mpr ⟨log.compiler, hcompiler ▸ hc, ?_⟩
    refine (bind_fillWith_eq_some rfl).mpr ⟨log.resolver, hresolver ▸ hr, ?_⟩
    refine (bind_fillWith_eq_some rfl).mpr ⟨log.engine, hengine ▸ he, ?_⟩
    exact (bind_fillWith_eq_some rfl).mpr ⟨log.format, hformat ▸ hf, rfl⟩

/-- **The log settings of a value.** A value stands for log settings if it is an object or an array
that is short enough, if all names in it are texts, and if what it gives for each setting is of the
setting's type. -/
theorem of?_eq_some {v : Tree} {log : LogConfig}
    (honce : ∀ members, v = .object members → AtMostOnce keys members) :
    of? v = some log ↔
      IsRecord v ∧ (∀ members, v = .object members → Named members) ∧
        Overrides (givenIn? v) log := by
  cases v with
  | object members =>
      have hof : of? (.object members) =
          if Named members then fillGiven fillings (givenBy fillings members) {} else none :=
        fillMembers_eq fillings_commute (by decide) (honce members rfl) (fun _ h => by cases h)
      rw [hof]
      by_cases hnamed : Named members
      · rw [if_pos hnamed, fillGiven_eq_some _ (givenIn? (.object members)) rfl rfl rfl rfl rfl]
        simp [IsRecord, hnamed]
      · rw [if_neg hnamed]
        simp [hnamed]
  | array elements =>
      have hof : of? (.array elements) =
          if elements.length ≤ keys.length then fillGiven fillings (elements[·]?) {} else none :=
        fillElements_eq
      rw [hof]
      by_cases hlength : elements.length ≤ keys.length
      · rw [if_pos hlength, fillGiven_eq_some (elements[·]?) (givenIn? (.array elements))
          rfl rfl rfl rfl rfl]
        simp [IsRecord, hlength]
      · rw [if_neg hlength]
        simp [IsRecord, hlength]
  | null => simp [of?, fillRecord, IsRecord]
  | bool b => simp [of?, fillRecord, IsRecord]
  | number literal => simp [of?, fillRecord, IsRecord]
  | string marks => simp [of?, fillRecord, IsRecord]

end LogConfig

/-! ### All settings -/

namespace LexerConfig

/-- The names of the settings. -/
def keys : List String := ["base_state", "eager_compile", "log"]

variable {members members' : List (List Mark × Tree)} {config : LexerConfig}

/-- What the members give for a log setting. -/
def givenInLog? (members : List (List Mark × Tree)) (name : String) : Option Tree :=
  (given? members "log").bind fun log => LogConfig.givenIn? log name

/-- No setting is given twice. -/
structure OnceEach (members : List (List Mark × Tree)) : Prop where
  own : AtMostOnce keys members
  log : ∀ inner, given? members "log" = some (.object inner) → AtMostOnce LogConfig.keys inner

/-- The names of members, and of members of the log settings, stand for texts. -/
structure WellNamed (members : List (List Mark × Tree)) : Prop where
  own : Named members
  log : ∀ inner, given? members "log" = some (.object inner) → Named inner

/-- What is given for a setting is of its type. -/
structure WellTyped (members : List (List Mark × Tree)) : Prop where
  baseState : Fits text? (given? members "base_state")
  eagerCompile : Fits bool? (given? members "eager_compile")
  isLog : ∀ log, given? members "log" = some log → LogConfig.IsRecord log
  log : LogConfig.WellTyped (givenInLog? members)

/-- Each setting has the value that is given for it, and its own default if none is. -/
structure Overrides (members : List (List Mark × Tree)) (config : LexerConfig) : Prop where
  baseState : Takes text? (given? members "base_state") "start".toList config.baseState.toList
  eagerCompile : Takes bool? (given? members "eager_compile") true config.eagerCompile
  log : LogConfig.Overrides (givenInLog? members) config.log

theorem fillings_commute : fillings.Pairwise Filling.Commutes := by
  simp only [fillings, List.pairwise_cons, List.forall_mem_cons]
  refine ⟨⟨?_, ?_, ?_⟩, ⟨?_, ?_⟩, ?_, .nil⟩
  all_goals first
    | exact filling_commutes fun _ _ _ => rfl
    | exact fun _ h => absurd h List.not_mem_nil

/-- Filling in the settings in order gives each of the three fields its value or its default. -/
theorem fillGiven_eq_some {given : Nat → Option Tree} :
    fillGiven fillings given {} = some config ↔
      Takes text? (given 0) "start".toList config.baseState.toList ∧
        Takes bool? (given 1) true config.eagerCompile ∧
        Takes LogConfig.of? (given 2) {} config.log := by
  simp only [fillings, fillGiven]
  constructor
  · intro h
    obtain ⟨name, hname, h⟩ := (bind_fillWith_eq_some (d := "start".toList) rfl).mp h
    obtain ⟨eager, heager, h⟩ := (bind_fillWith_eq_some rfl).mp h
    obtain ⟨log, hlog, h⟩ := (bind_fillWith_eq_some rfl).mp h
    obtain rfl := Option.some.inj h
    exact ⟨by simpa using hname, heager, hlog⟩
  · rintro ⟨hname, heager, hlog⟩
    refine (bind_fillWith_eq_some (d := "start".toList) rfl).mpr
      ⟨config.baseState.toList, hname, ?_⟩
    refine (bind_fillWith_eq_some rfl).mpr ⟨config.eagerCompile, heager, ?_⟩
    refine (bind_fillWith_eq_some rfl).mpr ⟨config.log, hlog, ?_⟩
    simp

/-- **The settings of an object.** An object stands for settings if all names in it are texts, and
if what it gives for each setting is of the setting's type. -/
theorem of?_object (honce : OnceEach members) :
    of? (.object members) = some config ↔
      WellNamed members ∧ (∀ log, given? members "log" = some log → LogConfig.IsRecord log) ∧
        Overrides members config := by
  have hof : of? (.object members) =
      if Named members then fillGiven fillings (givenBy fillings members) {} else none :=
    fillMembers_eq fillings_commute (by decide) honce.own (fun _ h => by cases h)
  have hlog : Takes LogConfig.of? (given? members "log") {} config.log ↔
      (∀ log, given? members "log" = some log → LogConfig.IsRecord log) ∧
        (∀ inner, given? members "log" = some (.object inner) → Named inner) ∧
        LogConfig.Overrides (givenInLog? members) config.log := by
    cases hgiven : given? members "log" with
    | none =>
        have hnothing (name : String) : givenInLog? members name = none := by
          rw [givenInLog?, hgiven]
          rfl
        rw [LogConfig.overrides_none_iff hnothing]
        simp [Takes]
    | some v =>
        have honceLog : ∀ inner, v = .object inner → AtMostOnce LogConfig.keys inner := by
          rintro inner rfl
          exact honce.log inner hgiven
        have hbyName : givenInLog? members = LogConfig.givenIn? v := by
          funext name
          rw [givenInLog?, hgiven]
          rfl
        simp only [Takes, LogConfig.of?_eq_some honceLog, hbyName, Option.some.injEq, forall_eq']
  rw [hof]
  by_cases hnamed : Named members
  · rw [if_pos hnamed, fillGiven_eq_some]
    constructor
    · rintro ⟨hname, heager, hsettings⟩
      obtain ⟨hrecord, hinner, hoverrides⟩ := hlog.mp hsettings
      exact ⟨⟨hnamed, hinner⟩, hrecord, hname, heager, hoverrides⟩
    · rintro ⟨hwell, hrecord, hname, heager, hoverrides⟩
      exact ⟨hname, heager, hlog.mpr ⟨hrecord, hwell.log, hoverrides⟩⟩
  · rw [if_neg hnamed]
    exact iff_of_false (by simp) fun h => hnamed h.1.own

/-- An object stands for settings exactly if its names are texts and its values of their types. -/
theorem exists_of?_object_iff (honce : OnceEach members) :
    (∃ config, of? (.object members) = some config) ↔ WellNamed members ∧ WellTyped members := by
  simp only [of?_object honce]
  constructor
  · rintro ⟨config, hnamed, hrecord, hname, heager, hlog⟩
    exact ⟨hnamed, (exists_takes_iff _).mp ⟨_, hname⟩, (exists_takes_iff _).mp ⟨_, heager⟩, hrecord,
      LogConfig.exists_overrides_iff.mp ⟨_, hlog⟩⟩
  · rintro ⟨hnamed, hname, heager, hrecord, hlog⟩
    obtain ⟨name, hname⟩ := (exists_takes_iff "start".toList).mpr hname
    obtain ⟨eager, heager⟩ := (exists_takes_iff true).mpr heager
    obtain ⟨log, hlog⟩ := LogConfig.exists_overrides_iff.mpr hlog
    have hpacked : (String.ofList name).toList = name := String.toList_ofList
    exact ⟨⟨String.ofList name, eager, log⟩, hnamed, hrecord, hpacked.symm ▸ hname, heager, hlog⟩

/-! ### Order and other members -/

/-- The same settings: the same members with the names of settings, in any order and between any
others. If the log settings are objects, this may be so within them too. -/
inductive SameSettings : List (List Mark × Tree) → List (List Mark × Tree) → Prop
  | own {members members' : List (List Mark × Tree)} : SameMembers keys members members' →
      SameSettings members members'
  | log {members members' inner inner' : List (List Mark × Tree)} :
      SameMembers ["base_state", "eager_compile"] members members' →
      given? members "log" = some (.object inner) → given? members' "log" = some (.object inner') →
      SameMembers LogConfig.keys inner inner' → SameSettings members members'

/-- Objects with the same settings stand for the same. -/
theorem SameSettings.overrides (h : SameSettings members members') (honce : OnceEach members)
    (ho : Overrides members config)
    (hrecord : ∀ log, given? members "log" = some log → LogConfig.IsRecord log) :
    (∀ log, given? members' "log" = some log → LogConfig.IsRecord log) ∧
      Overrides members' config := by
  have hown (name : String) {names : List String} (hsame : SameMembers names members members')
      (hname : name ∈ names) (hkey : name ∈ keys) : given? members name = given? members' name :=
    hsame.given?_eq hname (honce.own name hkey)
  cases h with
  | own hsame =>
      have hlog := hown "log" hsame (by decide) (by decide)
      refine ⟨hlog ▸ hrecord, ?_, ?_, ?_⟩
      · exact hown "base_state" hsame (by decide) (by decide) ▸ ho.baseState
      · exact hown "eager_compile" hsame (by decide) (by decide) ▸ ho.eagerCompile
      · refine ho.log.congr fun name _ => ?_
        rw [givenInLog?, givenInLog?, hlog]
  | @log inner inner' hsame hinner hinner' hsameLog =>
      refine ⟨fun log hlog => ?_, ?_, ?_, ?_⟩
      · rw [hinner'] at hlog
        obtain rfl := Option.some.inj hlog
        trivial
      · exact hown "base_state" hsame (by decide) (by decide) ▸ ho.baseState
      · exact hown "eager_compile" hsame (by decide) (by decide) ▸ ho.eagerCompile
      · refine ho.log.congr fun name hname => ?_
        rw [givenInLog?, givenInLog?, hinner, hinner']
        exact hsameLog.given?_eq hname (honce.log inner hinner name hname)

theorem SameSettings.symm (h : SameSettings members members') : SameSettings members' members := by
  cases h with
  | own hsame => exact .own (List.Perm.symm hsame)
  | log hsame hinner hinner' hsameLog =>
      exact .log (List.Perm.symm hsame) hinner' hinner (List.Perm.symm hsameLog)

/-- Whether an object is well named or not may depend on the other members, what it stands for does
not. -/
theorem SameSettings.of?_eq (h : SameSettings members members') (honce : OnceEach members)
    (honce' : OnceEach members') (hnamed : WellNamed members) (hnamed' : WellNamed members') :
    of? (.object members) = of? (.object members') := by
  ext config
  rw [of?_object honce, of?_object honce']
  constructor
  · rintro ⟨-, hrecord, ho⟩
    obtain ⟨hrecord', ho'⟩ := h.overrides honce ho hrecord
    exact ⟨hnamed', hrecord', ho'⟩
  · rintro ⟨-, hrecord', ho'⟩
    obtain ⟨hrecord, ho⟩ := h.symm.overrides honce' ho' hrecord'
    exact ⟨hnamed, hrecord, ho⟩

/-- **Settings override defaults field by field.** An object in which no setting is given twice is
read exactly if its names are texts and the values of its settings of their types. Then each
setting has the value that is given for it, or else its own default, also in log settings that are
given in part. The order of the members and the members that are no settings make no difference. -/
theorem fields_override_defaults {t front back : Text} (ht : Spells (.object members) t)
    (hfront : IsGap front) (hback : IsGap back) (honce : OnceEach members) :
    ((∃ config, ofJson (front ++ (t ++ back)) = .ok config) ↔
      WellNamed members ∧ WellTyped members) ∧
    (∀ config, ofJson (front ++ (t ++ back)) = .ok config → Overrides members config) ∧
    ∀ {members' : List (List Mark × Tree)} {t' front' back' : Text},
      Spells (.object members') t' → IsGap front' → IsGap back' → OnceEach members' →
      WellNamed members → WellNamed members' → SameSettings members members' →
      (ofJson (front ++ (t ++ back))).toOption = (ofJson (front' ++ (t' ++ back'))).toOption := by
  have hread (config : LexerConfig) :
      ofJson (front ++ (t ++ back)) = .ok config ↔ of? (.object members) = some config := by
    rw [← ofJson_toOption ht hfront hback]
    cases ofJson (front ++ (t ++ back)) <;> simp [Except.toOption]
  refine ⟨?_, fun config h => ?_, fun ht' hfront' hback' honce' hnamed hnamed' hsame => ?_⟩
  · simp only [hread]
    exact exists_of?_object_iff honce
  · exact ((of?_object honce).mp ((hread config).mp h)).2.2
  · rw [ofJson_toOption ht hfront hback, ofJson_toOption ht' hfront' hback']
    exact hsame.of?_eq honce honce' hnamed hnamed'

/-- Log settings in part, behind a member that is no setting: the level is the given one, the rest
is as by default. -/
theorem fields_override_defaults_partial_log :
    let inner := [(marksOf "global".toList, Tree.string (marksOf "info".toList))]
    let members := [(marksOf "x".toList, Tree.null), (marksOf "log".toList, Tree.object inner)]
    let text := "\x7b\"x\":null,\"log\":\x7b\"global\":\"info\"\x7d\x7d".toList
    let config : LexerConfig := ⟨"start", true, ⟨.info, none, none, none, .compact⟩⟩
    Spells (.object members) text ∧ OnceEach members ∧ ofJson text = .ok config ∧
      Overrides members config := by
  intro inner members text config
  have hname (name : String) :=
    SpellsName.mk isGap_nil (spells_marksOf name.toList) isGap_nil isGap_nil
  have hinner : Spells (.object inner) "\x7b\"global\":\"info\"\x7d".toList :=
    .object (.last (hname "global") (spells_writeString _) isGap_nil)
  have htext : Spells (.object members) text :=
    .object (.more (hname "x") .null isGap_nil (.last (hname "log") hinner isGap_nil))
  have honce : OnceEach members := by
    refine ⟨by decide, fun found h => ?_⟩
    have hlog : given? members "log" = some (.object inner) := rfl
    rw [hlog] at h
    cases h
    decide
  have hread : ofJson text = .ok config := rfl
  refine ⟨htext, honce, hread, ?_⟩
  exact (fields_override_defaults htext isGap_nil isGap_nil honce).2.1 config hread

/-- Half of a character for a name: the object gives no setting, so all of them could have their
defaults, but the name is read as a text and stands for none. -/
theorem half_character_name_refused :
    let members := [([Mark.code 0xD800], Tree.number ['0'])]
    let text := "\x7b\"\\ud800\":0\x7d".toList
    Spells (.object members) text ∧ OnceEach members ∧ WellTyped members ∧
      ¬∃ config, ofJson text = .ok config := by
  intro members text
  have hcode : HexCode 0xD800 ['d', '8', '0', '0'] :=
    ⟨'d', '8', '0', '0', 13, 8, 0, 0, rfl, rfl, rfl, rfl, rfl, rfl⟩
  have hname : SpellsName [.code 0xD800] "\"\\ud800\":".toList :=
    .mk isGap_nil (.cons (.code hcode) .nil) isGap_nil isGap_nil
  have hdigits : IsDigits ['0'] := by
    refine ⟨List.cons_ne_nil _ _, fun c hc => ?_⟩
    rw [List.mem_singleton.mp hc]
    rfl
  have hwhole : IsWhole ['0'] := ⟨hdigits, fun _ => rfl⟩
  have hzero : Spells (.number ['0']) ['0'] := .number (.positive (.mk hwhole .none .none))
  have hnone (name : String) : given? members name = none := rfl
  have hinLog (name : String) : givenInLog? members name = none := rfl
  have hfits {α : Type} (meaning : Tree → Option α) : Fits meaning none := fun v h => by cases h
  have honce : OnceEach members := by
    refine ⟨fun name _ => List.countP_le_length, fun inner h => ?_⟩
    rw [hnone] at h
    cases h
  have htyped : WellTyped members := by
    refine ⟨hfits text?, hfits bool?, fun log h => ?_, hfits _, hfits _, hfits _, hfits _, hfits _⟩
    rw [hnone] at h
    cases h
  refine ⟨.object (.last hname hzero isGap_nil), honce, htyped, ?_⟩
  rintro ⟨config, h⟩
  have hread : ofJson text = .error .malformed := rfl
  rw [hread] at h
  cases h

end LexerConfig

end ModalLex
