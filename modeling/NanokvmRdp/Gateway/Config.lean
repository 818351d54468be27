import NanokvmRdp.Lib.CString
import NanokvmRdp.Lib.Unsigned

/-!
# The options of the gateway

`gateway_config.c`: numbers, the address to listen on, and the loop over the
arguments. `parse_decimal` tests before each digit whether there is room for it, with
arithmetic of `unsigned long`; it is written over the operations of that type. It
takes a string for a number exactly if it is one in the range.
-/

namespace NanokvmRdp.Gateway

open CString

-- ---------------------------------------------------------------------------
-- Numbers
-- ---------------------------------------------------------------------------

section Numbers

variable {m : Type → Type} [Monad m] (ops : Unsigned m)

def parseDigits (maximum : Nat) : Nat → List UInt8 → m (Option Nat)
  | result, [] => pure (some result)
  | result, character :: rest =>
    if character < 48 ∨ character > 57 then pure none
    else do
      let digit := character.toNat - 48
      let room ← ops.sub maximum digit
      if result > room / 10 then pure none
      else do
        let shifted ← ops.mul result 10
        let result ← ops.add shifted digit
        parseDigits maximum result rest

/-- `parse_decimal`; `value` may be null. -/
def parseDecimal (value : Option (List UInt8)) (minimum maximum : Nat) : m (Option Nat) :=
  match value with
  | none => pure none
  | some [] => pure none
  | some (character :: rest) => do
    match ← parseDigits ops maximum 0 (character :: rest) with
    | none => pure none
    | some result => pure (if result < minimum ∨ result > maximum then none else some result)

end Numbers

-- ---------------------------------------------------------------------------
-- The configuration
-- ---------------------------------------------------------------------------

def bindAddressSize : Nat := 64

structure BindAddress where
  bytes : List UInt8
  length_eq : bytes.length = bindAddressSize
  deriving DecidableEq

def BindAddress.store (address : BindAddress) (host : List UInt8)
    (h : host.length < bindAddressSize) : BindAddress where
  bytes := (host ++ address.bytes.drop host.length).set host.length 0
  length_eq := by
    rw [List.length_set, List.length_append, List.length_drop, address.length_eq]
    omega

structure GatewayConfig where
  bindAddress : BindAddress
  port : UInt16
  certificate : List UInt8
  privateKey : List UInt8
  width : UInt16
  height : UInt16
  bitrate : UInt16
  controlPort : UInt16
  videoPort : UInt16
  httpPort : UInt16
  jpegQuality : Int
  directGfx : Bool
  swapAltCommand : Bool
  deriving DecidableEq

def ascii (text : String) : List UInt8 := text.toList.map fun c => c.toNat.toUInt8

def gatewayConfigDefaults : GatewayConfig where
  bindAddress := ⟨ascii "0.0.0.0" ++ List.replicate 57 0, by decide⟩
  port := 3389
  certificate := ascii "/root/nanokvm-rdp/cert.pem"
  privateKey := ascii "/root/nanokvm-rdp/key.pem"
  width := 1920
  height := 1080
  bitrate := 8000
  controlPort := 3390
  videoPort := 5004
  httpPort := 8080
  jpegQuality := 8
  directGfx := false
  swapAltCommand := false

inductive ValueOption where
  | listen | cert | key | width | height | bitrate | controlPort | videoPort | httpPort | jpegQuality
  deriving DecidableEq, Repr

def ValueOption.name : ValueOption → List UInt8
  | .listen => ascii "-listen"
  | .cert => ascii "-cert"
  | .key => ascii "-key"
  | .width => ascii "-width"
  | .height => ascii "-height"
  | .bitrate => ascii "-bitrate"
  | .controlPort => ascii "-control-port"
  | .videoPort => ascii "-video-port"
  | .httpPort => ascii "-http-port"
  | .jpegQuality => ascii "-jpeg-quality"

def valueOptions : List ValueOption :=
  [.listen, .cert, .key, .width, .height, .bitrate, .controlPort, .videoPort, .httpPort, .jpegQuality]

/-- `is_value_option`, with the option. -/
def valueOption? (option : List UInt8) : Option ValueOption :=
  valueOptions.find? fun candidate => candidate.name == option

inductive ConfigError where
  | unknownOption (option : List UInt8)
  | missingValue (option : List UInt8)
  | invalidValue (option value : List UInt8)
  deriving DecidableEq, Repr

def ConfigError.text : ConfigError → List UInt8
  | .unknownOption option => ascii "Unknown option: " ++ option
  | .missingValue option => ascii "Missing value for " ++ option
  | .invalidValue option value => ascii "Invalid value for " ++ option ++ ascii ": " ++ value

/-- `set_error`: what `vsnprintf` leaves of the text in a buffer of this size, 0 if there is none. -/
def setError (errorSize : Nat) (error : ConfigError) : List UInt8 := error.text.take (errorSize - 1)

section Options

variable {m : Type → Type} [Monad m] (ops : Unsigned m)

def parseListen (config : GatewayConfig) (value : List UInt8) : m (Bool × GatewayConfig) :=
  match strrchr 58 value with
  | none => pure (false, config)
  | some separator =>
    let hostLength := value.length - separator.length
    if hostLength = 0 ∨ separator.drop 1 = [] then pure (false, config)
    else if h : hostLength < bindAddressSize then do
      match ← parseDecimal ops (some (separator.drop 1)) 1 65535 with
      | none => pure (false, config)
      | some port =>
        let host := value.take hostLength
        have hhost : host.length < bindAddressSize :=
          Nat.lt_of_le_of_lt (List.length_take_le hostLength value) h
        pure (true,
          { config with bindAddress := config.bindAddress.store host hhost, port := port.toUInt16 })
    else pure (false, config)

/-- `parse_option_number` and the assignment that follows it. -/
def parseOptionNumber (config : GatewayConfig) (value : List UInt8) (minimum maximum : Nat)
    (assign : Nat → GatewayConfig) : m (Bool × GatewayConfig) := do
  match ← parseDecimal ops (some value) minimum maximum with
  | none => pure (false, config)
  | some parsed => pure (true, assign parsed)

def parseValue (config : GatewayConfig) (value : List UInt8) : ValueOption → m (Bool × GatewayConfig)
  | .listen => parseListen ops config value
  | .cert => pure (true, { config with certificate := value })
  | .key => pure (true, { config with privateKey := value })
  | .width =>
    parseOptionNumber ops config value 1 8192 fun parsed => { config with width := parsed.toUInt16 }
  | .height =>
    parseOptionNumber ops config value 1 8192 fun parsed => { config with height := parsed.toUInt16 }
  | .bitrate =>
    parseOptionNumber ops config value 1 65535 fun parsed => { config with bitrate := parsed.toUInt16 }
  | .controlPort =>
    parseOptionNumber ops config value 1 65535 fun parsed =>
      { config with controlPort := parsed.toUInt16 }
  | .videoPort =>
    parseOptionNumber ops config value 1 65535 fun parsed => { config with videoPort := parsed.toUInt16 }
  | .httpPort =>
    parseOptionNumber ops config value 1 65535 fun parsed => { config with httpPort := parsed.toUInt16 }
  | .jpegQuality =>
    parseOptionNumber ops config value 2 31 fun parsed => { config with jpegQuality := parsed }

/-- The loop of `gateway_config_parse` over the arguments behind the name of the program. Its
last branch, for an option of `is_value_option` that is none of these, has no counterpart. -/
def gatewayConfigParse (config : GatewayConfig) :
    List (List UInt8) → m (Option ConfigError × GatewayConfig)
  | [] => pure (none, config)
  | option :: rest =>
    if option = ascii "-direct-gfx" then gatewayConfigParse { config with directGfx := true } rest
    else if option = ascii "-swap-alt-command" then
      gatewayConfigParse { config with swapAltCommand := true } rest
    else
      match valueOption? option with
      | none => pure (some (.unknownOption option), config)
      | some candidate =>
        match rest with
        | [] => pure (some (.missingValue option), config)
        | value :: rest => do
          match ← parseValue ops config value candidate with
          | (false, config) => pure (some (.invalidValue option value), config)
          | (true, config) => gatewayConfigParse config rest

end Options

-- ---------------------------------------------------------------------------
-- A number is taken for what it is
-- ---------------------------------------------------------------------------

structure IsNumber (text : List UInt8) (minimum maximum number : Nat) : Prop where
  ne_nil : text ≠ []
  digits : ∀ c ∈ text, isDigit c = true
  value_eq : digitsValue text = number
  in_range : minimum ≤ number ∧ number ≤ maximum

def numberIn (minimum maximum : Nat) (text : List UInt8) : Option Nat :=
  if text ≠ [] ∧ text.all isDigit ∧ minimum ≤ digitsValue text ∧ digitsValue text ≤ maximum then
    some (digitsValue text)
  else none

theorem numberIn_eq_some {minimum maximum number : Nat} {text : List UInt8} :
    numberIn minimum maximum text = some number ↔ IsNumber text minimum maximum number := by
  rw [numberIn, Option.ite_none_right_eq_some, Option.some.injEq]
  constructor
  · rintro ⟨⟨hne, hdigits, hrange⟩, rfl⟩
    exact ⟨hne, List.all_eq_true.mp hdigits, rfl, hrange⟩
  · rintro ⟨hne, hdigits, rfl, hrange⟩
    exact ⟨⟨hne, List.all_eq_true.mpr hdigits, hrange⟩, rfl⟩

def pushDigit (value : Nat) (d : UInt8) : Nat := value * 10 + (d.toNat - 48)

theorem foldl_pushDigit (text : List UInt8) : text.foldl pushDigit 0 = digitsValue text :=
  decimal_eq_digitsValue text

theorem le_foldl_pushDigit (text : List UInt8) (value : Nat) : value ≤ text.foldl pushDigit value := by
  induction text generalizing value with
  | nil => exact Nat.le_refl _
  | cons d text ih =>
    have hpush : value ≤ pushDigit value d := by
      unfold pushDigit
      omega
    exact hpush.trans (ih _)

theorem isDigit_iff {c : UInt8} : isDigit c = true ↔ ¬ (c < 48 ∨ c > 57) := by
  rw [isDigit, Bool.and_eq_true, decide_eq_true_eq, decide_eq_true_eq, not_or, UInt8.not_lt,
    gt_iff_lt, UInt8.not_lt]

theorem digit_le_nine {c : UInt8} (h : isDigit c = true) : c.toNat - 48 ≤ 9 := by
  simp only [isDigit, Bool.and_eq_true, decide_eq_true_eq, UInt8.le_iff_toNat_le,
    UInt8.reduceToNat] at h
  omega

open Unsigned (wrapping checked exact_wrapping exact_checked)

section Exact

variable {m : Type → Type} [Monad m] [LawfulMonad m] {ops : Unsigned m} {width : Nat}

/-- The test in front of each digit is exact: with the digit the number stays in the range, or it
and any longer one is out of it. -/
theorem parseDigits_eq (hops : ops.Exact width) {maximum result : Nat} (hmax : maximum < 2 ^ width)
    (hnine : 9 ≤ maximum) (hresult : result ≤ maximum) (text : List UInt8) :
    parseDigits ops maximum result text =
      pure (if text.all isDigit ∧ text.foldl pushDigit result ≤ maximum then
        some (text.foldl pushDigit result) else none) := by
  induction text generalizing result with
  | nil => simp [parseDigits, hresult]
  | cons c text ih =>
    rw [parseDigits]
    by_cases hdigit : isDigit c = true
    · have hc := digit_le_nine hdigit
      rw [if_neg (isDigit_iff.mp hdigit)]
      dsimp only
      rw [hops.sub_eq hmax (by omega), pure_bind]
      by_cases hroom : result > (maximum - (c.toNat - 48)) / 10
      · have hlarge : maximum < pushDigit result c := by
          unfold pushDigit
          omega
        have hle := le_foldl_pushDigit text (pushDigit result c)
        rw [if_pos hroom, List.foldl_cons, if_neg]
        rintro ⟨-, hfits⟩
        omega
      · have hfits : result * 10 + (c.toNat - 48) ≤ maximum := by omega
        rw [if_neg hroom, hops.mul_eq (by omega), pure_bind, hops.add_eq (by omega), pure_bind, ih hfits]
        simp only [List.all_cons, hdigit, Bool.true_and, List.foldl_cons, pushDigit]
    · rw [if_pos (not_not.mp (mt isDigit_iff.mpr hdigit)), if_neg]
      rintro ⟨hdigits, -⟩
      exact hdigit (List.all_eq_true.mp hdigits c List.mem_cons_self)

theorem parseDecimal_eq (hops : ops.Exact width) {maximum : Nat} (hmax : maximum < 2 ^ width)
    (hnine : 9 ≤ maximum) (value : Option (List UInt8)) (minimum : Nat) :
    parseDecimal ops value minimum maximum = pure (value.bind (numberIn minimum maximum)) := by
  match value with
  | none => rfl
  | some [] => rfl
  | some (c :: text) =>
    rw [parseDecimal, parseDigits_eq hops hmax hnine (Nat.zero_le _), pure_bind, foldl_pushDigit,
      Option.bind_some, numberIn]
    by_cases hfits : (c :: text).all isDigit ∧ digitsValue (c :: text) ≤ maximum
    · rw [if_pos hfits]
      refine congrArg pure ?_
      by_cases hmin : minimum ≤ digitsValue (c :: text)
      · rw [if_neg (by omega), if_pos ⟨List.cons_ne_nil _ _, hfits.1, hmin, hfits.2⟩]
      · rw [if_pos (.inl (Nat.not_le.mp hmin)), if_neg fun h => hmin h.2.2.1]
    · rw [if_neg hfits, if_neg fun h => hfits ⟨h.2.1, h.2.2.2⟩]

-- ---------------------------------------------------------------------------
-- The address to listen on
-- ---------------------------------------------------------------------------

structure ListenForm (value host digits : List UInt8) (number : Nat) : Prop where
  split : value = host ++ 58 :: digits
  last_colon : 58 ∉ digits
  host_pos : 1 ≤ host.length
  host_le : host.length ≤ bindAddressSize - 1
  port_number : IsNumber digits 1 65535 number

theorem ListenForm.host_lt (h : ListenForm value host digits number) : host.length < bindAddressSize :=
  Nat.lt_of_le_of_lt h.host_le (by decide)

theorem port_range (hwidth : 32 ≤ width) : 65535 < 2 ^ width :=
  Nat.lt_of_lt_of_le (by decide) (Nat.pow_le_pow_right (by decide) hwidth)

theorem parseListen_split (hops : ops.Exact width) (hwidth : 32 ≤ width) (config : GatewayConfig)
    (host : List UInt8) {digits : List UInt8} (hlast : 58 ∉ digits) :
    parseListen ops config (host ++ 58 :: digits) =
      pure (if h : 1 ≤ host.length ∧ host.length < bindAddressSize then
        match numberIn 1 65535 digits with
        | none => (false, config)
        | some number => (true, { config with
            bindAddress := config.bindAddress.store host h.2, port := number.toUInt16 })
      else (false, config)) := by
  have hlength : (host ++ 58 :: digits).length - (58 :: digits).length = host.length := by
    rw [List.length_append]
    omega
  have hdigits : (58 :: digits).drop 1 = digits := rfl
  have hport := parseDecimal_eq hops (port_range hwidth) (by decide) (some digits) 1
  rw [Option.bind_some] at hport
  simp only [parseListen, strrchr_append hlast, hlength, hdigits, hport, pure_bind, List.take_left]
  by_cases hempty : host.length = 0
  · rw [if_pos (.inl hempty), dif_neg (by omega)]
  · by_cases hnil : digits = []
    · subst hnil
      rw [if_pos (.inr rfl)]
      split <;> rfl
    · rw [if_neg (by simp [hempty, hnil])]
      by_cases hlt : host.length < bindAddressSize
      · rw [dif_pos hlt, dif_pos ⟨by omega, hlt⟩]
        split <;> rfl
      · rw [dif_neg hlt, dif_neg fun h => hlt h.2]

theorem parseListen_form (hops : ops.Exact width) (hwidth : 32 ≤ width)
    (h : ListenForm value host digits number) (config : GatewayConfig) :
    parseListen ops config value =
      pure (true, { config with
        bindAddress := config.bindAddress.store host h.host_lt, port := number.toUInt16 }) := by
  have hlt := h.host_lt
  obtain ⟨rfl, hlast, hpos, -, hnumber⟩ := h
  rw [parseListen_split hops hwidth config host hlast, dif_pos ⟨hpos, hlt⟩, numberIn_eq_some.mpr hnumber]

theorem parseListen_refused (hops : ops.Exact width) (hwidth : 32 ≤ width) {value : List UInt8}
    (h : ¬ ∃ host digits number, ListenForm value host digits number) (config : GatewayConfig) :
    parseListen ops config value = pure (false, config) := by
  cases hcolon : strrchr 58 value with
  | none => rw [parseListen, hcolon]
  | some separator =>
    obtain ⟨host, digits, rfl, -, hlast⟩ := strrchr_eq_some hcolon
    rw [parseListen_split hops hwidth config host hlast]
    split
    · rename_i hhost
      cases hnumber : numberIn 1 65535 digits with
      | none => rfl
      | some number =>
        have hform : ListenForm (host ++ 58 :: digits) host digits number :=
          ⟨rfl, hlast, hhost.1, Nat.le_pred_of_lt hhost.2, numberIn_eq_some.mp hnumber⟩
        exact absurd ⟨host, digits, number, hform⟩ h
    · rfl

theorem parseListen_exact (hops : ops.Exact width) (hwidth : 32 ≤ width) (config : GatewayConfig)
    (value : List UInt8) :
    parseListen ops config value = pure (parseListen (wrapping width) config value).run := by
  by_cases hform : ∃ host digits number, ListenForm value host digits number
  · obtain ⟨host, digits, number, hform⟩ := hform
    rw [parseListen_form hops hwidth hform, parseListen_form (exact_wrapping width) hwidth hform,
      Id.run_pure]
  · rw [parseListen_refused hops hwidth hform, parseListen_refused (exact_wrapping width) hwidth hform,
      Id.run_pure]

theorem parseOptionNumber_eq (hops : ops.Exact width) (hwidth : 32 ≤ width) (config : GatewayConfig)
    (value : List UInt8) (minimum : Nat) {maximum : Nat} (hnine : 9 ≤ maximum) (hmax : maximum ≤ 65535)
    (assign : Nat → GatewayConfig) :
    parseOptionNumber ops config value minimum maximum assign =
      pure (match numberIn minimum maximum value with
        | none => (false, config)
        | some parsed => (true, assign parsed)) := by
  have hrange : maximum < 2 ^ width := Nat.lt_of_le_of_lt hmax (port_range hwidth)
  rw [parseOptionNumber, parseDecimal_eq hops hrange hnine, pure_bind, Option.bind_some]
  split <;> rfl

end Exact

theorem BindAddress.bytes_store (address : BindAddress) (h : host.length < bindAddressSize) :
    (address.store host h).bytes = host ++ 0 :: address.bytes.drop (host.length + 1) := by
  have hinside : host.length < address.bytes.length := by rw [address.length_eq]; exact h
  show (host ++ address.bytes.drop host.length).set host.length 0 = _
  rw [List.drop_eq_getElem_cons hinside, List.set_append_right _ _ (Nat.le_refl _), Nat.sub_self,
    List.set_cons_zero]

theorem toNat_toUInt16 {number : Nat} (h : number ≤ 65535) : number.toUInt16.toNat = number :=
  UInt16.toNat_ofNat_of_lt' (Nat.lt_succ_of_le h)

/-- Numbers are parsed exactly, and no `unsigned long` wraps on the way. An address to listen on is
stored if it has the form, and nothing is stored otherwise. -/
theorem numeric_options_exact (width : Nat) (hwidth : 32 ≤ width) :
    (∀ (value : Option (List UInt8)) (minimum maximum : Nat), 9 ≤ maximum → maximum < 2 ^ width →
      let parsed := (parseDecimal (wrapping width) value minimum maximum).run
      parseDecimal (checked width) value minimum maximum = some parsed ∧
        ∀ number, parsed = some number ↔
          ∃ text, value = some text ∧ IsNumber text minimum maximum number) ∧
    ∀ (config : GatewayConfig) (value : List UInt8),
      let result := (parseListen (wrapping width) config value).run
      parseListen (checked width) config value = some result ∧
        (result.1 = true ↔ ∃ host digits number, ListenForm value host digits number) ∧
        (∀ host digits number, ListenForm value host digits number →
          result.2.bindAddress.bytes = host ++ 0 :: config.bindAddress.bytes.drop (host.length + 1) ∧
            (0 ∉ value → textOf result.2.bindAddress.bytes = host) ∧
            result.2.port.toNat = number ∧
            result.2 = { config with
              bindAddress := result.2.bindAddress, port := result.2.port }) ∧
        (result.1 = false → result.2 = config) := by
  constructor
  · intro value minimum maximum hnine hmax parsed
    have hparsed : parsed = value.bind (numberIn minimum maximum) :=
      parseDecimal_eq (exact_wrapping width) hmax hnine value minimum
    refine ⟨hparsed ▸ parseDecimal_eq (exact_checked width) hmax hnine value minimum, fun number => ?_⟩
    simp only [hparsed, Option.bind_eq_some_iff, numberIn_eq_some]
  · intro config value result
    have hstored : ∀ host digits number, (h : ListenForm value host digits number) →
        result = (true, { config with
          bindAddress := config.bindAddress.store host h.host_lt, port := number.toUInt16 }) :=
      fun _ _ _ h => parseListen_form (exact_wrapping width) hwidth h config
    have hrefused : (¬ ∃ host digits number, ListenForm value host digits number) →
        result = (false, config) :=
      fun h => parseListen_refused (exact_wrapping width) hwidth h config
    refine ⟨parseListen_exact (exact_checked width) hwidth config value, ⟨fun htrue => ?_, ?_⟩,
      fun host digits number h => ?_, fun hfalse => ?_⟩
    · by_contra hform
      rw [hrefused hform] at htrue
      cases htrue
    · rintro ⟨host, digits, number, h⟩
      rw [hstored host digits number h]
    · rw [hstored host digits number h]
      have hbytes := config.bindAddress.bytes_store h.host_lt
      refine ⟨hbytes, fun hzero => ?_, toNat_toUInt16 h.port_number.in_range.2, rfl⟩
      have hhost : 0 ∉ host := fun hmem => hzero (h.split ▸ List.mem_append_left _ hmem)
      rw [hbytes, textOf_append hhost]
      exact List.append_nil host
    · refine congrArg Prod.snd (hrefused ?_)
      rintro ⟨host, digits, number, h⟩
      rw [hstored host digits number h] at hfalse
      cases hfalse

theorem small_options_exact :
    let ipv6 := ascii "::1:65535"
    (parseDecimal (wrapping 64) (some (ascii "007")) 1 9).run = some 7 ∧
      parseDecimal (checked 64) (some (ascii "007")) 1 9 = some (some 7) ∧
      ListenForm ipv6 (ascii "::1") (ascii "65535") 65535 ∧
      textOf (parseListen (wrapping 64) gatewayConfigDefaults ipv6).run.2.bindAddress.bytes =
        ascii "::1" := by
  intro ipv6
  obtain ⟨hnumbers, hlisten⟩ := numeric_options_exact 64 (by decide)
  obtain ⟨hchecked, hnumber⟩ := hnumbers (some (ascii "007")) 1 9 (by decide)
    (Nat.lt_trans (by decide) (port_range (by decide)))
  have hvalue : digitsValue (ascii "007") = 7 := (decimal_eq_digitsValue _).symm.trans (by decide)
  have hport : digitsValue (ascii "65535") = 65535 := (decimal_eq_digitsValue _).symm.trans (by decide)
  have hseven := (hnumber 7).mpr ⟨_, rfl, by decide, List.all_eq_true.mp (by decide), hvalue, by decide⟩
  have hform : ListenForm ipv6 (ascii "::1") (ascii "65535") 65535 :=
    ⟨by decide, by decide, by decide, by decide, by decide, List.all_eq_true.mp (by decide), hport,
      by decide⟩
  obtain ⟨-, -, hstored, -⟩ := hlisten gatewayConfigDefaults ipv6
  exact ⟨hseven, hchecked.trans (congrArg some hseven), hform, (hstored _ _ _ hform).2.1 (by decide)⟩

-- ---------------------------------------------------------------------------
-- Runs over the arguments
-- ---------------------------------------------------------------------------

/-- What the gateway relies on in its configuration. -/
structure GatewayConfig.Valid (config : GatewayConfig) : Prop where
  terminated : 0 ∈ config.bindAddress.bytes
  port : 1 ≤ config.port.toNat
  width : 1 ≤ config.width.toNat ∧ config.width.toNat ≤ 8192
  height : 1 ≤ config.height.toNat ∧ config.height.toNat ≤ 8192
  bitrate : 1 ≤ config.bitrate.toNat
  controlPort : 1 ≤ config.controlPort.toNat
  videoPort : 1 ≤ config.videoPort.toNat
  httpPort : 1 ≤ config.httpPort.toNat
  jpegQuality : 2 ≤ config.jpegQuality ∧ config.jpegQuality ≤ 31

theorem valid_gatewayConfigDefaults : gatewayConfigDefaults.Valid :=
  ⟨by decide, by decide, by decide, by decide, by decide, by decide, by decide, by decide, by decide⟩

section Runs

variable {width : Nat}

theorem valid_parseOptionNumber (hwidth : 32 ≤ width) {config : GatewayConfig} (h : config.Valid)
    (value : List UInt8) {minimum maximum : Nat} (hnine : 9 ≤ maximum) (hmax : maximum ≤ 65535)
    {assign : Nat → GatewayConfig}
    (hassign : ∀ number, minimum ≤ number → number ≤ maximum → (assign number).Valid) :
    (parseOptionNumber (wrapping width) config value minimum maximum assign).run.2.Valid := by
  rw [parseOptionNumber_eq (exact_wrapping width) hwidth config value minimum hnine hmax]
  cases hnumber : numberIn minimum maximum value with
  | none => exact h
  | some number =>
    have hrange := (numberIn_eq_some.mp hnumber).in_range
    exact hassign number hrange.1 hrange.2

theorem valid_parseListen (hwidth : 32 ≤ width) {config : GatewayConfig} (h : config.Valid)
    (value : List UInt8) : (parseListen (wrapping width) config value).run.2.Valid := by
  by_cases hform : ∃ host digits number, ListenForm value host digits number
  · obtain ⟨host, digits, number, hform⟩ := hform
    rw [parseListen_form (exact_wrapping width) hwidth hform config]
    refine { h with terminated := ?_, port := ?_ }
    · rw [Id.run_pure, BindAddress.bytes_store]
      simp
    · rw [Id.run_pure, toNat_toUInt16 hform.port_number.in_range.2]
      exact hform.port_number.in_range.1
  · rw [parseListen_refused (exact_wrapping width) hwidth hform config]
    exact h

/-- An option keeps the configuration valid, also one that is refused. -/
theorem valid_parseValue (hwidth : 32 ≤ width) {config : GatewayConfig} (h : config.Valid)
    (value : List UInt8) (option : ValueOption) :
    (parseValue (wrapping width) config value option).run.2.Valid := by
  have hstored : ∀ {low high number : Nat}, low ≤ number → number ≤ high → high ≤ 65535 →
      low ≤ number.toUInt16.toNat ∧ number.toUInt16.toNat ≤ high := by
    intro low high number hlow hhigh hmax
    rw [toNat_toUInt16 (hhigh.trans hmax)]
    exact ⟨hlow, hhigh⟩
  cases option with
  | listen => exact valid_parseListen hwidth h value
  | cert => exact { h with }
  | key => exact { h with }
  | width =>
    exact valid_parseOptionNumber hwidth h value (by decide) (by decide) fun number hlow hhigh =>
      { h with width := hstored hlow hhigh (by decide) }
  | height =>
    exact valid_parseOptionNumber hwidth h value (by decide) (by decide) fun number hlow hhigh =>
      { h with height := hstored hlow hhigh (by decide) }
  | bitrate =>
    exact valid_parseOptionNumber hwidth h value (by decide) (by decide) fun number hlow hhigh =>
      { h with bitrate := (hstored hlow hhigh (by decide)).1 }
  | controlPort =>
    exact valid_parseOptionNumber hwidth h value (by decide) (by decide) fun number hlow hhigh =>
      { h with controlPort := (hstored hlow hhigh (by decide)).1 }
  | videoPort =>
    exact valid_parseOptionNumber hwidth h value (by decide) (by decide) fun number hlow hhigh =>
      { h with videoPort := (hstored hlow hhigh (by decide)).1 }
  | httpPort =>
    exact valid_parseOptionNumber hwidth h value (by decide) (by decide) fun number hlow hhigh =>
      { h with httpPort := (hstored hlow hhigh (by decide)).1 }
  | jpegQuality =>
    exact valid_parseOptionNumber hwidth h value (by decide) (by decide) fun number hlow hhigh =>
      { h with jpegQuality := by simpa using ⟨hlow, hhigh⟩ }

theorem valid_gatewayConfigParse (hwidth : 32 ≤ width) {config : GatewayConfig} (h : config.Valid)
    (arguments : List (List UInt8)) :
    (gatewayConfigParse (wrapping width) config arguments).run.2.Valid := by
  fun_induction gatewayConfigParse (wrapping width) config arguments with
  | case1 => exact h
  | case2 config rest ih => exact ih { h with }
  | case3 config rest _ ih => exact ih { h with }
  | case4 => exact h
  | case5 => exact h
  | case6 config option _ _ candidate _ value rest ih =>
    have hvalue := valid_parseValue hwidth h value candidate
    rw [Id.run_bind]
    generalize (parseValue (wrapping width) config value candidate).run = result at hvalue ⊢
    obtain ⟨ok, next⟩ := result
    cases ok with
    | false => exact hvalue
    | true => exact ih next hvalue

theorem length_setError_lt (h : 0 < errorSize) (error : ConfigError) :
    (setError errorSize error).length < errorSize := by
  rw [setError, List.length_take]
  omega

theorem error_names_argument (config : GatewayConfig) (arguments : List (List UInt8))
    (h : (gatewayConfigParse (wrapping width) config arguments).run.1 = some error) :
    ∃ option ∈ arguments, option <:+: error.text := by
  fun_induction gatewayConfigParse (wrapping width) config arguments with
  | case1 => cases h
  | case2 config rest ih =>
    obtain ⟨option, hmem, htext⟩ := ih h
    exact ⟨option, List.mem_cons_of_mem _ hmem, htext⟩
  | case3 config rest _ ih =>
    obtain ⟨option, hmem, htext⟩ := ih h
    exact ⟨option, List.mem_cons_of_mem _ hmem, htext⟩
  | case4 config option rest =>
    cases h
    exact ⟨option, List.mem_cons_self, (List.suffix_append _ _).isInfix⟩
  | case5 config option =>
    cases h
    exact ⟨option, List.mem_cons_self, (List.suffix_append _ _).isInfix⟩
  | case6 config option _ _ candidate _ value rest ih =>
    rw [Id.run_bind] at h
    generalize (parseValue (wrapping width) config value candidate).run = result at h
    obtain ⟨ok, next⟩ := result
    cases ok with
    | false =>
      cases h
      refine ⟨option, List.mem_cons_self, ascii "Invalid value for ", ascii ": " ++ value, ?_⟩
      rw [ConfigError.text, List.append_assoc, List.append_assoc, List.append_assoc]
    | true =>
      obtain ⟨named, hmem, htext⟩ := ih next h
      exact ⟨named, List.mem_cons_of_mem _ (List.mem_cons_of_mem _ hmem), htext⟩

variable {m : Type → Type} [Monad m] [LawfulMonad m] {ops : Unsigned m}

theorem parseOptionNumber_exact (hops : ops.Exact width) (hwidth : 32 ≤ width) (config : GatewayConfig)
    (value : List UInt8) (minimum : Nat) {maximum : Nat} (hnine : 9 ≤ maximum) (hmax : maximum ≤ 65535)
    (assign : Nat → GatewayConfig) :
    parseOptionNumber ops config value minimum maximum assign =
      pure (parseOptionNumber (wrapping width) config value minimum maximum assign).run := by
  rw [parseOptionNumber_eq hops hwidth config value minimum hnine hmax,
    parseOptionNumber_eq (exact_wrapping width) hwidth config value minimum hnine hmax, Id.run_pure]

theorem parseValue_exact (hops : ops.Exact width) (hwidth : 32 ≤ width) (config : GatewayConfig)
    (value : List UInt8) (option : ValueOption) :
    parseValue ops config value option = pure (parseValue (wrapping width) config value option).run := by
  cases option with
  | listen => exact parseListen_exact hops hwidth config value
  | cert => rfl
  | key => rfl
  | width | height | bitrate | controlPort | videoPort | httpPort | jpegQuality =>
    exact parseOptionNumber_exact hops hwidth config value _ (by decide) (by decide) _

/-- No arguments make an `unsigned long` wrap: checked operations do what the machine's do. -/
theorem gatewayConfigParse_exact (hops : ops.Exact width) (hwidth : 32 ≤ width) (config : GatewayConfig)
    (arguments : List (List UInt8)) :
    gatewayConfigParse ops config arguments =
      pure (gatewayConfigParse (wrapping width) config arguments).run := by
  fun_induction gatewayConfigParse (wrapping width) config arguments with
  | case1 => rfl
  | case2 config rest ih => rw [gatewayConfigParse, if_pos rfl, ih]
  | case3 config rest hgfx ih => rw [gatewayConfigParse, if_neg hgfx, if_pos rfl, ih]
  | case4 config option rest hgfx hswap hnone =>
    rw [gatewayConfigParse.eq_def]
    simp only [if_neg hgfx, if_neg hswap, hnone, Id.run_pure]
  | case5 config option hgfx hswap candidate hsome =>
    rw [gatewayConfigParse.eq_def]
    simp only [if_neg hgfx, if_neg hswap, hsome, Id.run_pure]
  | case6 config option hgfx hswap candidate hsome value rest ih =>
    rw [gatewayConfigParse.eq_def]
    simp only [if_neg hgfx, if_neg hswap, hsome, Id.run_bind]
    rw [parseValue_exact hops hwidth, pure_bind]
    generalize (parseValue (wrapping width) config value candidate).run = result
    obtain ⟨ok, next⟩ := result
    cases ok with
    | false => rfl
    | true => exact ih next

end Runs

/-- Whatever the arguments, parsing them over the defaults wraps no `unsigned
long` and leaves a configuration the gateway can rely on, also when it is
refused; the error then names one of the arguments and fits its buffer. -/
theorem arguments_parsed_safely (width errorSize : Nat) (hwidth : 32 ≤ width) (hsize : 0 < errorSize)
    (arguments : List (List UInt8)) (result : Option ConfigError × GatewayConfig)
    (hparse : (gatewayConfigParse (wrapping width) gatewayConfigDefaults arguments).run = result) :
    result.2.Valid ∧ gatewayConfigParse (checked width) gatewayConfigDefaults arguments = some result ∧
    ∀ error, result.1 = some error →
      (∃ option ∈ arguments, option <:+: error.text) ∧ (setError errorSize error).length < errorSize := by
  subst hparse
  refine ⟨valid_gatewayConfigParse hwidth valid_gatewayConfigDefaults arguments,
    gatewayConfigParse_exact (exact_checked width) hwidth gatewayConfigDefaults arguments, ?_⟩
  intro error herror
  exact ⟨error_names_argument _ arguments herror, length_setError_lt hsize error⟩

theorem wide_desktop_refused_safely :
    (∃ option ∈ [ascii "-width", ascii "8193"],
      option <:+: (ConfigError.invalidValue (ascii "-width") (ascii "8193")).text) ∧
    (setError 16 (.invalidValue (ascii "-width") (ascii "8193"))).length < 16 :=
  (arguments_parsed_safely 32 16 (by decide) (by decide) [ascii "-width", ascii "8193"] _ rfl).2.2 _
    (by decide)

end NanokvmRdp.Gateway
