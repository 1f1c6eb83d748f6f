import Emmc.Construct
import Emmc.Lib.Entries
import Emmc.PowerUp.Order

/-!
# The command line

`parse_args` goes through the options. Those after `--client` belong to that client, which is registered
when the next `--client` or the end of the command line is reached; the others are for all devices.

* `sections`: what is asked for each client, read off the command line.
* `Reads`: how much of the command line is read when the driver starts. A client that cannot be
  registered ends the driver only if it is the last one.
* `driver_starts_iff`: when the driver starts, and with which clients and settings.
* `disabled_modes_unused`: what `--disable-mode` means for the scans.

The options are given as `getopt_long` returns them, numbers as `atoi` does. Log output and its level are
left out.
-/

namespace Emmc

open Throwing Entries

namespace CommandLine

open Mmc PowerUp

inductive Opt
  | verbose
  | quiet
  | disableMode (mode : String)
  | maxSeg (num : Int)
  | client (capname : String)
  | device (name : String)
  | dsMax (num : Int)
  | readonly
  | dmaMapAll
  | dmaMapPerReq
  /-- An option that is not known or lacks its argument. -/
  | unknown
deriving DecidableEq, Repr

/-- What the options are checked against. -/
structure Env where
  /-- `parse_device_name`, a negative result is an error. -/
  parseDeviceName : String → Except Int String
  hasCap : String → Bool

/-- `Client_opts` -/
structure ClientOpts where
  capname : Option String := none
  device : String := ""
  dsMax : Int := 2
  readonly : Bool := false
  dmaMapAll : Bool := true
deriving DecidableEq, Repr

/-- What is handed to `add_static_client`. -/
structure StaticClient where
  cap : String
  device : String
  dsMax : Int
  readonly : Bool
  dmaMapAll : Bool
deriving DecidableEq, Repr

/-- The variables of `parse_args`, and what it leaves behind. -/
structure Args where
  opts : ClientOpts := {}
  /-- The clients that were registered, the first one first. -/
  clients : List StaticClient := []
  disable : DeviceTypeDisable := {}
  maxSeg : U32 := 64

/-- A computation that may `return` a code from `parse_args`. -/
abbrev ArgM := EStateM Int Args

def disableMode (mode : String) (d : DeviceTypeDisable) : DeviceTypeDisable :=
  if mode = "hs26" then { d with mmc := Ec196DeviceType.hs26.put d.mmc true }
  else if mode = "hs52" then { d with mmc := Ec196DeviceType.hs52.put d.mmc true }
  else if mode = "hs52_ddr" then
    { d with mmc := Ec196DeviceType.hs52Ddr12.put (Ec196DeviceType.hs52Ddr18.put d.mmc true) true }
  else if mode = "hs200" then
    { d with mmc := Ec196DeviceType.hs200Sdr12.put (Ec196DeviceType.hs200Sdr18.put d.mmc true) true }
  else if mode = "hs400" then
    { d with mmc := Ec196DeviceType.hs400Ddr12.put (Ec196DeviceType.hs400Ddr18.put d.mmc true) true }
  else if mode = "sdr12" then { d with sd := d.sd ||| Timing.uhsSdr12.bits }
  else if mode = "sdr25" then { d with sd := d.sd ||| Timing.uhsSdr25.bits }
  else if mode = "sdr50" then { d with sd := d.sd ||| Timing.uhsSdr50.bits }
  else if mode = "sdr104" then { d with sd := d.sd ||| Timing.uhsSdr104.bits }
  else if mode = "ddr50" then { d with sd := d.sd ||| Timing.uhsDdr50.bits }
  -- "Invalid parameter" is only a warning.
  else d

variable (env : Env)

/-- `add_client`; the result is false if the client cannot be registered. -/
def addClient : ArgM Bool := do
  let opts := (← get).opts
  match opts.capname with
  | some capname =>
    if opts.device = "" then
      return false
    else if !env.hasCap capname then
      return false
    else
      modify fun a => { a with clients := a.clients ++
        [⟨capname, opts.device, opts.dsMax, opts.readonly, opts.dmaMapAll⟩] }
      return true
  | none => return true

def onOpts (f : ClientOpts → ClientOpts) : ArgM Unit := modify fun a => { a with opts := f a.opts }

/-- One iteration of the loop. -/
def parseOpt : Opt → ArgM Unit
  | .verbose => return ()
  | .quiet => return ()
  | .disableMode mode => modify fun a => { a with disable := disableMode mode a.disable }
  | .maxSeg num =>
    match Construct.acceptMaxSeg num with
    | none => throw (-1)
    | some maxSeg => modify fun a => { a with maxSeg := maxSeg }
  | .client capname => do
    if !(← addClient env) then
      throw 1
    onOpts fun _ => { capname := some capname }
  | .device name =>
    match env.parseDeviceName name with
    | .error _ => throw (-1)
    | .ok device => onOpts fun o => { o with device := device }
  | .dsMax num => onOpts fun o => { o with dsMax := num }
  | .readonly => onOpts fun o => { o with readonly := true }
  | .dmaMapAll => onOpts fun o => { o with dmaMapAll := true }
  | .dmaMapPerReq => onOpts fun o => { o with dmaMapAll := false }
  | .unknown => throw (-1)

/-- `leftover`: there are parameters that are not options. -/
def parseArgs (opts : List Opt) (leftover : Bool) : ArgM Unit := do
  forM opts (parseOpt env)
  if leftover then
    throw (-1)
  if !(← addClient env) then
    throw (-1)

/-- With what `main` goes on to the hardware; it ends if the code is negative. -/
def started (opts : List Opt) (leftover : Bool) : Option Args :=
  match parseArgs env opts leftover {} with
  | .ok _ a => some a
  | .error code a => if code < 0 then none else some a

/-! ## What the command line says -/

namespace Opt

def capname? : Opt → Option String
  | client capname => some capname
  | _ => none

def device? : Opt → Option String
  | device name => (env.parseDeviceName name).toOption
  | _ => none

def dsMax? : Opt → Option Int
  | dsMax num => some num
  | _ => none

def readonly? : Opt → Option Bool
  | readonly => some true
  | _ => none

def dmaMapAll? : Opt → Option Bool
  | dmaMapAll => some true
  | dmaMapPerReq => some false
  | _ => none

def maxSeg? : Opt → Option U32
  | maxSeg num => Construct.acceptMaxSeg num
  | _ => none

/-- The option is known, and so is what its argument says. -/
def Good : Opt → Prop
  | maxSeg num => 0 ≤ num ∧ num ≤ 128
  | device name => (env.parseDeviceName name).toOption.isSome = true
  | unknown => False
  | _ => True

end Opt

namespace ClientOpts

/-- The options of a group: the last one of each kind counts. -/
def told (o : ClientOpts) (l : List Opt) : ClientOpts where
  capname := o.capname
  device := lastOf (Opt.device? env) o.device l
  dsMax := lastOf Opt.dsMax? o.dsMax l
  readonly := lastOf Opt.readonly? o.readonly l
  dmaMapAll := lastOf Opt.dmaMapAll? o.dmaMapAll l

/-- The client to be registered, if it can be. -/
def client (o : ClientOpts) : Option StaticClient :=
  o.capname.bind fun cap =>
    if o.device ≠ "" ∧ env.hasCap cap = true then
      some ⟨cap, o.device, o.dsMax, o.readonly, o.dmaMapAll⟩
    else none

/-- There is no client, or it can be registered. -/
def Complete (o : ClientOpts) : Prop := o.capname = none ∨ (o.client env).isSome = true

end ClientOpts

/-- What is asked before the first `--client`, and for each client. -/
def sectionsFrom (o : ClientOpts) (l : List Opt) : List ClientOpts :=
  o.told env (groups Opt.capname? l).1 ::
    (groups Opt.capname? l).2.map fun g => ({ capname := some g.1 } : ClientOpts).told env g.2

def sections (l : List Opt) : List ClientOpts := sectionsFrom env {} l

/-- How much of the command line is read when the driver starts: all of it, or what stands before the
`--client` behind a client that cannot be registered. -/
inductive Reads (opts : List Opt) (leftover : Bool) : List Opt → Prop
  | all : leftover = false → (∀ opt ∈ opts, opt.Good env) → (∀ o ∈ sections env opts, o.Complete env) →
    Reads opts leftover opts
  | front {read rest : List Opt} {capname : String} {before : List ClientOpts} {o : ClientOpts} :
    opts = read ++ .client capname :: rest → (∀ opt ∈ read, opt.Good env) →
    sections env read = before ++ [o] → (∀ c ∈ before, c.Complete env) → ¬ o.Complete env →
    Reads opts leftover read

end CommandLine

namespace PowerUp

/-- The argument of `--disable-mode`. -/
def Mode.name : Mode → String
  | hs400 => "hs400"
  | hs200 => "hs200"
  | hs52Ddr => "hs52_ddr"
  | hs52 => "hs52"
  | hs26 => "hs26"

def SdMode.name : SdMode → Option String
  | sdr104 => some "sdr104"
  | ddr50 => some "ddr50"
  | sdr50 => some "sdr50"
  | sdr25 => some "sdr25"
  | sdr12 => some "sdr12"
  | hs => none

end PowerUp

namespace CommandLine

open Mmc PowerUp

/-- The modes whose names were read are disabled, and no others. -/
structure Disabled (read : List Opt) (d : DeviceTypeDisable) : Prop where
  mmc : ∀ mode : Mode, mode.bit.test d.mmc = true ↔ .disableMode mode.name ∈ read
  sd : ∀ mode : SdMode, d.sd &&& mode.timing.bits ≠ 0 ↔
    ∃ name, mode.name = some name ∧ .disableMode name ∈ read

/-- What the driver is told by the part of the command line that is read. -/
structure Told (env : Env) (read : List Opt) (a : Args) : Prop where
  clients : a.clients = (sections env read).filterMap (ClientOpts.client env)
  disable : Disabled read a.disable
  maxSeg : a.maxSeg = lastOf Opt.maxSeg? 64 read

/-! ## Groups -/

variable {env : Env}

theorem told_cons (o : ClientOpts) (x : Opt) (l : List Opt) :
    o.told env (x :: l) = (o.told env [x]).told env l := by
  simp only [ClientOpts.told, lastOf_cons, lastOf_nil]

theorem sectionsFrom_nil (o : ClientOpts) : sectionsFrom env o [] = [o] := rfl

theorem sectionsFrom_client (o : ClientOpts) (capname : String) (l : List Opt) :
    sectionsFrom env o (.client capname :: l) = o :: sectionsFrom env { capname := some capname } l := by
  have opens : (Opt.client capname).capname? = some capname := rfl
  unfold sectionsFrom
  rw [groups_head opens]
  rfl

theorem sectionsFrom_other (o : ClientOpts) {x : Opt} (other : x.capname? = none) (l : List Opt) :
    sectionsFrom env o (x :: l) = sectionsFrom env (o.told env [x]) l := by
  unfold sectionsFrom
  rw [groups_other other, told_cons]

/-- What follows only goes on with the last group. -/
theorem sectionsFrom_split (env : Env) (l : List Opt) (o : ClientOpts) :
    ∃ before last, sectionsFrom env o l = before ++ [last] ∧
      ∀ rest, sectionsFrom env o (l ++ rest) = before ++ sectionsFrom env last rest := by
  induction l generalizing o with
  | nil => exact ⟨[], o, rfl, fun _ => rfl⟩
  | cons x l ih =>
    cases opens : x.capname? with
    | none =>
      obtain ⟨before, last, whole, longer⟩ := ih (o.told env [x])
      refine ⟨before, last, by rw [sectionsFrom_other o opens, whole], fun rest => ?_⟩
      rw [List.cons_append, sectionsFrom_other o opens, longer]
    | some capname =>
      have same : x = .client capname := by
        cases x with
        | client other => rw [Option.some.inj opens]
        | _ => cases opens
      obtain ⟨before, last, whole, longer⟩ := ih { capname := some capname }
      rw [same]
      refine ⟨o :: before, last, by rw [sectionsFrom_client, whole]; rfl, fun rest => ?_⟩
      rw [List.cons_append, sectionsFrom_client, longer, List.cons_append]

theorem sections_append {read : List Opt} {before : List ClientOpts} {last : ClientOpts}
    (whole : sections env read = before ++ [last]) (rest : List Opt) :
    sections env (read ++ rest) = before ++ sectionsFrom env last rest := by
  obtain ⟨before', last', whole', longer⟩ := sectionsFrom_split env read {}
  obtain ⟨rfl, same⟩ := List.append_inj' (whole'.symm.trans whole) rfl
  rw [← List.singleton_inj.mp same]
  exact longer rest

/-! ## Disabled modes -/

theorem disabled_start : Disabled [] {} where
  mmc mode := by
    cases mode <;> exact ⟨fun set => absurd set (by decide), fun absurd => (List.not_mem_nil absurd).elim⟩
  sd mode := by
    apply iff_of_false
    · exact fun set => set (BitVec.zero_and)
    · rintro ⟨_, -, absurd⟩
      exact List.not_mem_nil absurd

/-- Setting the bit of a mode disables this mode only. -/
theorem test_named (mode other : Mode) (raw : U8) :
    mode.bit.test (other.bit.put raw true) =
      (mode.bit.test raw || decide (mode.name = other.name)) := by
  by_cases same : mode = other
  · rw [same, Bitfield.put, Bitfield.test_set_self, decide_eq_true rfl, Bool.or_true]
    rfl
  · have apart : mode.bit.Disjoint other.bit ∧ mode.name ≠ other.name := by
      cases mode <;> cases other <;> first | decide | exact absurd rfl same
    rw [Bitfield.put, Bitfield.test_set_of_disjoint apart.1, decide_eq_false apart.2, Bool.or_false]

/-- A name of the eMMC table sets the bit of its mode. -/
theorem disableMode_ofMode (named : Mode) (d : DeviceTypeDisable) :
    (disableMode named.name d).sd = d.sd ∧ ∀ mode : Mode,
      mode.bit.test (disableMode named.name d).mmc =
        (mode.bit.test d.mmc || decide (mode.name = named.name)) := by
  -- The mode is recognised by its bit for 1.8 V; the one for 1.2 V belongs to no mode.
  have second : ∀ (mode : Mode) (field : Bitfield 8) (raw : U8), mode.bit.Disjoint field →
      mode.bit.test (field.put (named.bit.put raw true) true) =
        (mode.bit.test raw || decide (mode.name = named.name)) := by
    intro mode field raw apart
    exact (Bitfield.test_set_of_disjoint apart _ _).trans (test_named mode named raw)
  cases named with
  | hs26 => exact ⟨rfl, fun mode => test_named mode .hs26 d.mmc⟩
  | hs52 => exact ⟨rfl, fun mode => test_named mode .hs52 d.mmc⟩
  | hs52Ddr => exact ⟨rfl, fun mode => second mode Ec196DeviceType.hs52Ddr12 _ (by cases mode <;> decide)⟩
  | hs200 => exact ⟨rfl, fun mode => second mode Ec196DeviceType.hs200Sdr12 _ (by cases mode <;> decide)⟩
  | hs400 => exact ⟨rfl, fun mode => second mode Ec196DeviceType.hs400Ddr12 _ (by cases mode <;> decide)⟩

/-- A name of the SD table sets the bit of its timing. -/
theorem disableMode_ofSdMode {named : SdMode} {name : String} (known : named.name = some name)
    (d : DeviceTypeDisable) : disableMode name d = { d with sd := d.sd ||| named.timing.bits } := by
  cases named with
  | hs => cases known
  | _ =>
    cases known
    rfl

/-- Any other name does nothing. -/
theorem disableMode_unknown {name : String} (mmc : ∀ mode : Mode, mode.name ≠ name)
    (sd : ∀ mode : SdMode, mode.name ≠ some name) (d : DeviceTypeDisable) : disableMode name d = d := by
  have none : ∀ other ∈ ["hs26", "hs52", "hs52_ddr", "hs200", "hs400"], name ≠ other := by
    simp only [List.forall_mem_cons]
    exact ⟨(mmc .hs26).symm, (mmc .hs52).symm, (mmc .hs52Ddr).symm, (mmc .hs200).symm, (mmc .hs400).symm,
      fun _ absurd => (List.not_mem_nil absurd).elim⟩
  have noneSd : ∀ other ∈ ["sdr12", "sdr25", "sdr50", "sdr104", "ddr50"], name ≠ other := by
    have differs : ∀ (mode : SdMode) {other}, mode.name = some other → name ≠ other :=
      fun mode _ known same => sd mode (by rw [known, same])
    simp only [List.forall_mem_cons]
    exact ⟨differs .sdr12 rfl, differs .sdr25 rfl, differs .sdr50 rfl, differs .sdr104 rfl,
      differs .ddr50 rfl, fun _ absurd => (List.not_mem_nil absurd).elim⟩
  simp only [List.forall_mem_cons] at none noneSd
  simp only [disableMode, none, noneSd, if_false]

theorem disableMode_mmc (name : String) (d : DeviceTypeDisable) (mode : Mode) :
    mode.bit.test (disableMode name d).mmc = (mode.bit.test d.mmc || decide (mode.name = name)) := by
  by_cases mmc : ∃ named : Mode, named.name = name
  · obtain ⟨named, rfl⟩ := mmc
    exact (disableMode_ofMode named d).2 mode
  · rw [decide_eq_false fun same => mmc ⟨mode, same⟩, Bool.or_false]
    by_cases sd : ∃ named : SdMode, named.name = some name
    · obtain ⟨named, known⟩ := sd
      rw [disableMode_ofSdMode known]
    · rw [disableMode_unknown (not_exists.mp mmc) (not_exists.mp sd)]

theorem bits_named (mode other : SdMode) {name : String} (named : other.name = some name) (raw : U32) :
    (raw ||| other.timing.bits) &&& mode.timing.bits ≠ 0 ↔
      raw &&& mode.timing.bits ≠ 0 ∨ mode.name = some name := by
  have same : other.timing.bits &&& mode.timing.bits ≠ 0 ↔ mode.name = some name := by
    rw [← named]
    cases mode <;> cases other <;> decide
  rw [← same, BitVec.and_or_distrib_right]
  exact (not_congr BitVec.or_eq_zero_iff).trans not_and_or

theorem disableMode_sd (name : String) (d : DeviceTypeDisable) (mode : SdMode) :
    (disableMode name d).sd &&& mode.timing.bits ≠ 0 ↔
      d.sd &&& mode.timing.bits ≠ 0 ∨ mode.name = some name := by
  by_cases sd : ∃ named : SdMode, named.name = some name
  · obtain ⟨named, known⟩ := sd
    rw [disableMode_ofSdMode known]
    exact bits_named mode named known d.sd
  · rw [or_iff_left fun same => sd ⟨mode, same⟩]
    by_cases mmc : ∃ named : Mode, named.name = name
    · obtain ⟨named, rfl⟩ := mmc
      rw [(disableMode_ofMode named d).1]
    · rw [disableMode_unknown (not_exists.mp mmc) (not_exists.mp sd)]

theorem Disabled.mode {read : List Opt} {d : DeviceTypeDisable} (disabled : Disabled read d)
    (name : String) : Disabled (read ++ [.disableMode name]) (disableMode name d) where
  mmc mode := by
    rw [disableMode_mmc, Bool.or_eq_true, decide_eq_true_iff, disabled.mmc, List.mem_append,
      List.mem_singleton, Opt.disableMode.injEq]
  sd mode := by
    rw [disableMode_sd, disabled.sd]
    simp only [List.mem_append, List.mem_singleton, Opt.disableMode.injEq, and_or_left, exists_or,
      exists_eq_right]

theorem Disabled.other {read : List Opt} {d : DeviceTypeDisable} (disabled : Disabled read d) {x : Opt}
    (other : ∀ name, x ≠ .disableMode name) : Disabled (read ++ [x]) d where
  mmc mode := by
    rw [disabled.mmc, List.mem_append, List.mem_singleton]
    exact (or_iff_left fun same => other _ same.symm).symm
  sd mode := by
    rw [disabled.sd]
    apply exists_congr
    intro name
    rw [List.mem_append, List.mem_singleton]
    exact and_congr_right fun _ => (or_iff_left fun same => other _ same.symm).symm

/-! ## Going through the options -/

/-- The options up to here were read, and all clients but the last one are registered. -/
structure Reading (env : Env) (read : List Opt) (a : Args) : Prop where
  good : ∀ opt ∈ read, opt.Good env
  groups : ∃ before, sections env read = before ++ [a.opts] ∧ (∀ c ∈ before, c.Complete env) ∧
    a.clients = before.filterMap (ClientOpts.client env)
  disable : Disabled read a.disable
  maxSeg : a.maxSeg = lastOf Opt.maxSeg? 64 read

theorem reading_start : Reading env [] {} where
  good _ absurd := (List.not_mem_nil absurd).elim
  groups := ⟨[], rfl, fun _ absurd => (List.not_mem_nil absurd).elim, rfl⟩
  disable := disabled_start
  maxSeg := rfl

/-- The clients of some groups and one more. -/
theorem clients_concat (before : List ClientOpts) (last : ClientOpts) :
    (before ++ [last]).filterMap (ClientOpts.client env) =
      before.filterMap (ClientOpts.client env) ++ (last.client env).toList := by
  rw [List.filterMap_append]
  cases registered : last.client env with
  | none => rw [List.filterMap_cons_none registered]; rfl
  | some c => rw [List.filterMap_cons_some registered]; rfl

/-- An option that does not open a group belongs to the last one. -/
theorem Reading.groups_other {read : List Opt} {a : Args} (reading : Reading env read a) {x : Opt}
    (other : x.capname? = none) {opts : ClientOpts} (same : a.opts.told env [x] = opts) :
    ∃ before, sections env (read ++ [x]) = before ++ [opts] ∧ (∀ c ∈ before, c.Complete env) ∧
      a.clients = before.filterMap (ClientOpts.client env) := by
  obtain ⟨before, whole, complete, clients⟩ := reading.groups
  refine ⟨before, ?_, complete, clients⟩
  rw [sections_append whole, sectionsFrom_other _ other, same, sectionsFrom_nil]

/-- An option of the present client. -/
theorem Reading.told {read : List Opt} {a : Args} (reading : Reading env read a) (x : Opt)
    (good : x.Good env) (other : x.capname? = none) (noMode : ∀ name, x ≠ .disableMode name)
    (noMaxSeg : x.maxSeg? = none) {opts : ClientOpts} (same : a.opts.told env [x] = opts) :
    Reading env (read ++ [x]) { a with opts := opts } where
  good := forall_concat reading.good good
  groups := reading.groups_other other same
  disable := reading.disable.other noMode
  maxSeg := by rw [lastOf_concat, noMaxSeg]; exact reading.maxSeg

theorem Reading.client {read : List Opt} {a : Args} (reading : Reading env read a)
    (complete : a.opts.Complete env) (capname : String) :
    Reading env (read ++ [.client capname])
      { a with
        clients := a.clients ++ (a.opts.client env).toList
        opts := { capname := some capname } } where
  good := forall_concat reading.good trivial
  groups := by
    obtain ⟨before, whole, completed, clients⟩ := reading.groups
    refine ⟨before ++ [a.opts], ?_, forall_concat completed complete, ?_⟩
    · rw [sections_append whole, sectionsFrom_client, sectionsFrom_nil, List.append_assoc]
      rfl
    · rw [clients_concat, clients]
  disable := reading.disable.other (by simp)
  maxSeg := by rw [lastOf_concat]; exact reading.maxSeg

theorem addClient_spec (a : Args) :
    wp (addClient env)
      (fun done a' => if done then a.opts.Complete env ∧
          a' = { a with clients := a.clients ++ (a.opts.client env).toList }
        else ¬ a.opts.Complete env ∧ a' = a)
      (fun _ _ => False) a := by
  unfold addClient
  rw [wp_bind, wp_get]
  dsimp only
  cases client : a.opts.capname with
  | none =>
    refine ⟨Or.inl client, ?_⟩
    rw [ClientOpts.client, client]
    exact congrArg (fun clients => { a with clients := clients }) (List.append_nil _).symm
  | some capname =>
    have refused : ¬ (a.opts.device ≠ "" ∧ env.hasCap capname = true) → ¬ a.opts.Complete env := by
      intro missing complete
      rcases complete with none | registered
      · rw [none] at client
        cases client
      · rw [ClientOpts.client, client, Option.bind_some, if_neg missing] at registered
        cases registered
    rw [wp_ite]
    refine ⟨fun empty => ⟨refused fun both => both.1 empty, rfl⟩, fun named => ?_⟩
    rw [wp_ite]
    refine ⟨fun unknown => ⟨refused fun both => ?_, rfl⟩, fun known => ?_⟩
    · rw [both.2] at unknown
      cases unknown
    · have valid : env.hasCap capname = true := by
        rwa [Bool.not_eq_true', Bool.not_eq_false] at known
      have registered : a.opts.client env = some
          ⟨capname, a.opts.device, a.opts.dsMax, a.opts.readonly, a.opts.dmaMapAll⟩ := by
        rw [ClientOpts.client, client, Option.bind_some, if_pos ⟨named, valid⟩]
      refine ⟨Or.inr (by rw [registered]; rfl), ?_⟩
      rw [registered]
      rfl

theorem accepted_of_good {num : Int} (good : 0 ≤ num ∧ num ≤ 128) :
    Construct.acceptMaxSeg num = some (BitVec.ofInt 32 num) :=
  if_neg (by omega)

/-- Why `parse_args` returns before the end of the options. -/
def Stops (env : Env) (a : Args) (x : Opt) (code : Int) : Prop :=
  (code = -1 ∧ ¬ x.Good env) ∨ (code = 1 ∧ (∃ capname, x = .client capname) ∧ ¬ a.opts.Complete env)

theorem parseOpt_spec {read : List Opt} {a : Args} (reading : Reading env read a) (x : Opt) :
    wp (parseOpt env x) (fun _ a' => Reading env (read ++ [x]) a')
      (fun code a' => a' = a ∧ Stops env a x code) a := by
  cases x with
  | verbose => exact reading.told .verbose trivial rfl (by simp) rfl rfl
  | quiet => exact reading.told .quiet trivial rfl (by simp) rfl rfl
  | disableMode mode =>
    have told : Reading env (read ++ [.disableMode mode])
        { a with disable := disableMode mode a.disable } := by
      refine ⟨forall_concat reading.good trivial, reading.groups_other rfl rfl,
        reading.disable.mode mode, ?_⟩
      rw [lastOf_concat]
      exact reading.maxSeg
    exact told
  | maxSeg num =>
    unfold parseOpt
    dsimp only
    by_cases good : 0 ≤ num ∧ num ≤ 128
    · rw [accepted_of_good good]
      refine ⟨forall_concat reading.good good, reading.groups_other rfl rfl,
        reading.disable.other (by simp), ?_⟩
      rw [lastOf_concat, Opt.maxSeg?, accepted_of_good good]
      rfl
    · have refused : Construct.acceptMaxSeg num = none := if_pos (by omega)
      rw [refused]
      exact ⟨rfl, Or.inl ⟨rfl, good⟩⟩
  | client capname =>
    unfold parseOpt
    apply ((addClient_spec a).mono (fun _ _ post => post) fun _ _ absurd => absurd.elim).bind
    intro done a₁ post
    cases done with
    | false =>
      obtain ⟨incomplete, rfl⟩ := post
      exact ⟨rfl, Or.inr ⟨rfl, ⟨capname, rfl⟩, incomplete⟩⟩
    | true =>
      obtain ⟨complete, rfl⟩ := post
      exact reading.client complete capname
  | device name =>
    unfold parseOpt
    dsimp only
    cases parsed : env.parseDeviceName name with
    | error e =>
      refine ⟨rfl, Or.inl ⟨rfl, fun good => ?_⟩⟩
      have known : (env.parseDeviceName name).toOption.isSome = true := good
      rw [parsed] at known
      cases known
    | ok device =>
      apply reading.told (.device name) _ rfl (by simp) rfl
      · simp only [ClientOpts.told, lastOf_cons, Opt.device?, parsed]
        rfl
      · show (env.parseDeviceName name).toOption.isSome = true
        rw [parsed]
        rfl
  | dsMax num => exact reading.told (.dsMax num) trivial rfl (by simp) rfl rfl
  | readonly => exact reading.told .readonly trivial rfl (by simp) rfl rfl
  | dmaMapAll => exact reading.told .dmaMapAll trivial rfl (by simp) rfl rfl
  | dmaMapPerReq => exact reading.told .dmaMapPerReq trivial rfl (by simp) rfl rfl
  | unknown => exact ⟨rfl, Or.inl ⟨rfl, id⟩⟩

/-! ## When the driver starts -/

/-- A client with another one behind it is registered. -/
theorem Reading.registered {whole : List Opt} {a : Args} (reading : Reading env whole a)
    {read rest : List Opt} {capname : String} (split : whole = read ++ .client capname :: rest)
    {before : List ClientOpts} {o : ClientOpts} (front : sections env read = before ++ [o]) :
    o.Complete env := by
  obtain ⟨closed, sectioned, complete, -⟩ := reading.groups
  rw [split, sections_append front, sectionsFrom_client] at sectioned
  obtain ⟨before', last, later, -⟩ :=
    sectionsFrom_split env rest { capname := some capname }
  rw [later, ← List.cons_append, ← List.append_assoc] at sectioned
  have same := (List.append_inj' sectioned rfl).1
  apply complete o
  rw [← same]
  exact List.mem_append_right _ List.mem_cons_self

theorem Reading.reads_front {opts read rest : List Opt} {a : Args} (reading : Reading env read a)
    {leftover : Bool} {capname : String} (split : opts = read ++ .client capname :: rest)
    (incomplete : ¬ a.opts.Complete env) :
    Reads env opts leftover read ∧ Told env read a := by
  obtain ⟨before, whole, complete, clients⟩ := reading.groups
  have unregistered : a.opts.client env = none := by
    cases registered : a.opts.client env with
    | none => rfl
    | some c => exact absurd (Or.inr (by rw [registered]; rfl)) incomplete
  refine ⟨.front split reading.good whole complete incomplete, ?_, reading.disable, reading.maxSeg⟩
  rw [whole, clients_concat, clients, unregistered, Option.toList_none, List.append_nil]

/-- What is wrong with the whole command line keeps the driver from starting. -/
theorem Reading.not_reads {opts : List Opt} {a : Args} (reading : Reading env opts a) {leftover : Bool}
    (wrong : leftover = false → ¬ a.opts.Complete env) (read : List Opt) :
    ¬ Reads env opts leftover read := by
  intro reads
  cases reads with
  | all none _ complete =>
    obtain ⟨before, whole, -, -⟩ := reading.groups
    apply wrong none (complete _ _)
    rw [whole]
    exact List.mem_append_right _ (List.mem_singleton_self _)
  | front split _ whole _ incomplete => exact incomplete (reading.registered split whole)

/-- So does an option that is wrong, as long as it is reached. -/
theorem Reading.not_reads_bad {opts front back : List Opt} {a : Args} (reading : Reading env front a)
    {x : Opt} (split : opts = front ++ x :: back) (bad : ¬ x.Good env) {leftover : Bool}
    (read : List Opt) : ¬ Reads env opts leftover read := by
  intro reads
  cases reads with
  | all _ good _ =>
    apply bad (good x _)
    rw [split]
    exact List.mem_append_right _ List.mem_cons_self
  | front split' good whole _ incomplete =>
    rcases cut_cases (split.symm.trans split') with member | ⟨-, same⟩ | ⟨rest, front⟩
    · exact bad (good x member)
    · apply bad
      rw [same]
      trivial
    · exact incomplete (reading.registered front whole)

theorem parseArgs_spec (env : Env) (opts : List Opt) (leftover : Bool) :
    wp (parseArgs env opts leftover) (fun _ a => Reads env opts leftover opts ∧ Told env opts a)
      (fun code a => if code < 0 then ∀ read, ¬ Reads env opts leftover read
        else ∃ read, Reads env opts leftover read ∧ Told env read a) {} := by
  have loop : wp (forM opts (parseOpt env)) (fun _ a => Reading env opts a)
      (fun code a => if code < 0 then ∀ read, ¬ Reads env opts leftover read
        else ∃ read, Reads env opts leftover read ∧ Told env read a) {} := by
    apply wp_forM _ reading_start
    intro read x rest a split reading
    apply (parseOpt_spec reading x).mono (fun _ _ reading' => reading')
    rintro code _ ⟨rfl, ⟨rfl, bad⟩ | ⟨rfl, ⟨capname, rfl⟩, incomplete⟩⟩
    · exact reading.not_reads_bad split bad
    · exact ⟨read, reading.reads_front split incomplete⟩
  unfold parseArgs
  apply loop.bind
  intro _ a reading
  dsimp only
  rw [wp_ite]
  refine ⟨fun extra => ?_, fun none => ?_⟩
  · exact reading.not_reads fun none => absurd (extra.symm.trans none) (by decide)
  have none : leftover = false := Bool.eq_false_iff.mpr none
  apply ((addClient_spec a).mono (fun _ _ post => post) fun _ _ absurd => absurd.elim).bind
  intro done a₁ post
  cases done with
  | false => exact reading.not_reads fun _ => post.1
  | true =>
    obtain ⟨complete, rfl⟩ := post
    obtain ⟨before, whole, completed, clients⟩ := reading.groups
    refine ⟨.all none reading.good ?_, ?_, reading.disable, reading.maxSeg⟩
    · rw [whole]
      exact forall_concat completed complete
    · rw [whole, clients_concat, clients]

theorem started_told (opts : List Opt) (leftover : Bool) {a : Args}
    (starts : started env opts leftover = some a) :
    ∃ read, Reads env opts leftover read ∧ Told env read a := by
  have spec := parseArgs_spec env opts leftover
  unfold wp at spec
  unfold started at starts
  cases run : parseArgs env opts leftover {} with
  | ok _ a' =>
    rw [run] at spec starts
    rw [← Option.some.inj starts]
    exact ⟨opts, spec⟩
  | error code a' =>
    rw [run] at spec starts
    by_cases negative : code < 0
    · simp only [if_pos negative, reduceCtorEq] at starts
    · simp only [if_neg negative, Option.some.injEq] at spec starts
      rwa [← starts]

theorem started_isSome (opts : List Opt) (leftover : Bool) :
    (started env opts leftover).isSome = true ↔ ∃ read, Reads env opts leftover read := by
  have spec := parseArgs_spec env opts leftover
  unfold wp at spec
  unfold started
  cases run : parseArgs env opts leftover {} with
  | ok _ a =>
    rw [run] at spec
    exact iff_of_true rfl ⟨opts, spec.1⟩
  | error code a =>
    rw [run] at spec
    by_cases negative : code < 0
    · simp only [if_pos negative] at spec ⊢
      exact iff_of_false Bool.false_ne_true fun reads => reads.elim spec
    · simp only [if_neg negative] at spec ⊢
      obtain ⟨read, reads, -⟩ := spec
      exact iff_of_true rfl ⟨read, reads⟩

/-- The driver starts exactly when the options that are read are all right, and it is told what they
say. -/
theorem driver_starts_iff (env : Env) (opts : List Opt) (leftover : Bool) :
    ((started env opts leftover).isSome = true ↔ ∃ read, Reads env opts leftover read) ∧
      ∀ a, started env opts leftover = some a →
        ∃ read, Reads env opts leftover read ∧ Told env read a :=
  ⟨started_isSome opts leftover, fun _ => started_told opts leftover⟩

/-! ## What is disabled -/

/-- Settings of the clock that no option forbids. -/
inductive Unforbidden (read : List Opt) : U32 → Timing → Prop
  | mmc {mode : Mode} : .disableMode mode.name ∉ read →
    Unforbidden read mode.programming.freq mode.programming.mmcTiming
  /-- On the way to HS400. -/
  | base : .disableMode Mode.hs400.name ∉ read → Unforbidden read (52 * mHz) .hs
  | sd {mode : SdMode} : (∀ name, mode.name = some name → .disableMode name ∉ read) →
    Unforbidden read mode.freq mode.timing

theorem Disabled.unforbidden {read : List Opt} {d : DeviceTypeDisable} (disabled : Disabled read d)
    {freq : U32} {timing : Timing} (enabled : Enabled d freq timing) (fast : 400 * kHz < freq) :
    Unforbidden read freq timing := by
  have mmc : ∀ {mode : Mode}, mode.bit.test d.mmc = false → .disableMode mode.name ∉ read := by
    intro mode free member
    rw [(disabled.mmc mode).mpr member] at free
    cases free
  cases enabled with
  | slow slow => exact absurd fast (BitVec.not_lt.mpr slow)
  | mmc free => exact .mmc (mmc free)
  | base free => exact .base (mmc free)
  | @sd mode free =>
    apply Unforbidden.sd
    intro name named member
    exact (disabled.sd mode).mpr ⟨name, named, member⟩ free
  | last =>
    have unnamed : ∀ name, SdMode.hs.name = some name → .disableMode name ∉ read := nofun
    exact .sd unnamed

/-- Whatever a scan does, beyond 400 kHz it never uses a mode that `--disable-mode` has named. -/
theorem disabled_modes_unused {σ : Type} {env : Env} {opts : List Opt} {leftover : Bool} {a : Args}
    (starts : started env opts leftover = some a) (drv : Driver σ) (s : Scan σ) :
    ∃ read, Reads env opts leftover read ∧
      ∀ freq timing strobe, .clock freq timing strobe ∈ calls drv a.disable s → 400 * kHz < freq →
        Unforbidden read freq timing := by
  obtain ⟨read, reads, told⟩ := started_told opts leftover starts
  refine ⟨read, reads, fun freq timing strobe asked fast => ?_⟩
  have enabled : Asked a.disable (.clock freq timing strobe) := calls_asked drv a.disable s _ asked
  exact told.disable.unforbidden enabled fast

/-- All device names and capabilities are known. -/
def anyDevice : Env := { parseDeviceName := .ok, hasCap := fun _ => true }

def oneClient : List Opt := [.disableMode "hs400", .client "disk", .device "8A3F", .readonly]

def oneClientArgs : Args where
  opts := { capname := some "disk", device := "8A3F", readonly := true }
  clients := [⟨"disk", "8A3F", 2, true, true⟩]
  disable := { mmc := 0xc0 }

/-- A driver on which every command succeeds. -/
def obedient : Driver Unit where
  suppUhsTimings _ := true
  suppPowerLimit _ := true
  needsTuningSdr50 := false
  ioPhys := 0
  ioVirt := 0
  ioBuf _ _ := 0
  cmdExec := modify fun t => ({ t.1 with status := .success }, t.2)
  setBusWidth _ := return ()
  setClockAndTiming _ _ _ := return ()
  setVoltage _ := return ()
  delay _ := return ()
  tuningFinished := return some true
  resetTuning := return ()
  enableAutoTuning := return ()
  cardBusy := return false
  init := return ()
  suppUhsModes := true
  xpcSupported _ := true
  supportedVoltage := 0
  decides _ _ _ := Or.inl rfl
  sparesRequest _ _ := by constructor <;> rfl

theorem hs400_unused :
    ∃ read, Reads anyDevice oneClient false read ∧
      ∀ freq timing strobe,
        .clock freq timing strobe ∈ calls obedient oneClientArgs.disable { hw := () } →
          400 * kHz < freq → Unforbidden read freq timing :=
  have starts : started anyDevice oneClient false = some oneClientArgs := rfl
  disabled_modes_unused starts obedient { hw := () }

end CommandLine

end Emmc
