import Mathlib.Algebra.Group.Int.Defs
import Mathlib.Algebra.Group.Nat.Defs
import ConveyorModbus.Config

/-!
# Loading the configuration file

What `load_config` admits: a parsed file is turned into the records field by
field, with the defaults of the missing ones.  Every section may be absent.
The conversions between the values of the file and the types of the fields
belong to the library that reads it and stay a parameter.
-/

namespace ConveyorModbus

/-- A parsed file.  A float and a date keep their spelling. -/
inductive Toml where
  | string (text : String)
  | integer (value : Int)
  | float (text : String)
  | boolean (value : Bool)
  | datetime (text : String)
  | array (values : List Toml)
  | table (entries : List (String × Toml))

abbrev Fields : Type := List (String × Toml)

/-!
## Conversions
-/

/--
What the library reads from a value when a type of the program is asked for.
It may convert between scalars, and may read a struct from an array by
position, so a struct or an enumeration gives the names it declares.
-/
structure Conversions where
  asString : Toml -> Option String
  asUnsigned : Nat -> Toml -> Option Nat
  asSeq : Toml -> Option (List Toml)
  asStruct : List String -> Toml -> Option Fields
  asVariant : List String -> Toml -> Option String

namespace Conversions

/--
A value that already has the type asked for is read as it is.  The integers of
a file have 64 bits and a sign.
-/
structure Lawful (conversions : Conversions) : Prop where
  string : forall text, conversions.asString (.string text) = some text
  unsigned : forall (bits value : Nat), value < 2 ^ bits -> value < 2 ^ 63 ->
    conversions.asUnsigned bits (.integer value) = some value
  array : forall values, conversions.asSeq (.array values) = some values
  table : forall names (entries : Fields),
    (entries.map Prod.fst).Sublist names ->
      conversions.asStruct names (.table entries) = some entries
  variant : forall (names : List String) name, name ∈ names ->
    conversions.asVariant names (.string name) = some name

/-- The conversions that convert nothing. -/
def plain : Conversions where
  asString
    | .string text => some text
    | _ => none
  asUnsigned bits
    | .integer value =>
        if 0 ≤ value ∧ value < 2 ^ bits then some value.toNat else none
    | _ => none
  asSeq
    | .array values => some values
    | _ => none
  asStruct _
    | .table entries => some entries
    | _ => none
  asVariant names
    | .string name => if name ∈ names then some name else none
    | _ => none

theorem plain_lawful : plain.Lawful where
  string _ := rfl
  unsigned bits value hbits _ := by
    have hlt : (value : Int) < 2 ^ bits := by exact_mod_cast hbits
    simp [plain, hlt]
  array _ := rfl
  table _ _ _ := rfl
  variant _ _ hmem := by simp [plain, hmem]

variable (conversions : Conversions)

def asU8 (value : Toml) : Option UInt8 :=
  (conversions.asUnsigned 8 value).map UInt8.ofNat

def asU16 (value : Toml) : Option UInt16 :=
  (conversions.asUnsigned 16 value).map UInt16.ofNat

def asVec {A : Type} (read : Toml -> Option A) (value : Toml) :
    Option (List A) :=
  (conversions.asSeq value).bind fun values => values.mapM read

end Conversions

/-!
## Fields
-/

namespace Fields

variable {A : Type}

def required (fields : Fields) (name : String) (read : Toml -> Option A) :
    Option A :=
  match fields.lookup name with
  | some value => read value
  | none => none

/-- `#[serde(default)]`, with the value that stands for a missing field -/
def withDefault (fields : Fields) (name : String) (read : Toml -> Option A)
    (missing : A) : Option A :=
  match fields.lookup name with
  | some value => read value
  | none => some missing

theorem bind_read {B : Type} {read : Option A} {a : A}
    {next : A -> Option B} {b : B} (hread : read = some a)
    (hnext : next a = some b) : (read >>= next) = some b := by
  rw [hread]
  exact hnext

section Lookup

variable {fields : Fields} {name other : String} {value : Toml}
  {read : Toml -> Option A} {missing : A}

@[simp] theorem required_self :
    required ((name, value) :: fields) name read = read value := by
  simp [required]

@[simp] theorem required_of_ne (hne : name ≠ other) :
    required ((other, value) :: fields) name read =
      required fields name read := by
  simp [required, List.lookup_cons, beq_false_of_ne hne]

@[simp] theorem withDefault_self :
    withDefault ((name, value) :: fields) name read missing = read value := by
  simp [withDefault]

@[simp] theorem withDefault_of_ne (hne : name ≠ other) :
    withDefault ((other, value) :: fields) name read missing =
      withDefault fields name read missing := by
  simp [withDefault, List.lookup_cons, beq_false_of_ne hne]

@[simp] theorem withDefault_nil :
    withDefault [] name read missing = some missing := rfl

end Lookup

end Fields

/-!
## Records
-/

section Records

variable (conversions : Conversions)

def ConveyorWriteFunction.ofToml (value : Toml) :
    Option ConveyorWriteFunction :=
  (conversions.asVariant variants value).bind deserialize

def ConveyorReadFunction.ofToml (value : Toml) : Option ConveyorReadFunction :=
  (conversions.asVariant variants value).bind deserialize

def WebhookConfig.ofToml (value : Toml) : Option WebhookConfig := do
  let fields <- conversions.asStruct ["name", "url"] value
  let name <- fields.required "name" conversions.asString
  let url <- fields.required "url" conversions.asString
  pure { name, url }

def ConveyorSendRoute.ofToml (value : Toml) : Option ConveyorSendRoute := do
  let fields <- conversions.asStruct
    ["source", "destination", "device", "slave_id", "function",
      "register_address", "value"] value
  let source <- fields.required "source" conversions.asString
  let destination <- fields.required "destination" conversions.asString
  let device <- fields.required "device" conversions.asString
  let slaveId <- fields.withDefault "slave_id" conversions.asU8 defaultModbusSlaveId
  let function <-
    fields.withDefault "function" (ConveyorWriteFunction.ofToml conversions) default
  let registerAddress <- fields.required "register_address" conversions.asU16
  let value <- fields.required "value" conversions.asU16
  pure { source, destination, device, slaveId, function, registerAddress, value }

def ConveyorReadCheck.ofToml (value : Toml) : Option ConveyorReadCheck := do
  let fields <- conversions.asStruct
    ["location", "device", "slave_id", "function", "register_address",
      "quantity", "hook_notify"] value
  let location <- fields.required "location" conversions.asString
  let device <- fields.required "device" conversions.asString
  let slaveId <- fields.withDefault "slave_id" conversions.asU8 defaultModbusSlaveId
  let function <-
    fields.withDefault "function" (ConveyorReadFunction.ofToml conversions) default
  let registerAddress <- fields.required "register_address" conversions.asU16
  let quantity <-
    fields.withDefault "quantity" conversions.asU16 defaultModbusReadQuantity
  let hookNotify <- fields.withDefault "hook_notify"
    (fun value => (conversions.asString value).map some) none
  pure
    { location, device, slaveId, function, registerAddress, quantity, hookNotify }

def ConveyorSendSuccessCheck.ofToml (value : Toml) :
    Option ConveyorSendSuccessCheck := do
  let fields <- conversions.asStruct
    ["source", "device", "slave_id", "function", "register_address",
      "quantity"] value
  let source <- fields.required "source" conversions.asString
  let device <- fields.required "device" conversions.asString
  let slaveId <- fields.withDefault "slave_id" conversions.asU8 defaultModbusSlaveId
  let function <-
    fields.withDefault "function" (ConveyorReadFunction.ofToml conversions) default
  let registerAddress <- fields.required "register_address" conversions.asU16
  let quantity <-
    fields.withDefault "quantity" conversions.asU16 defaultModbusReadQuantity
  pure { source, device, slaveId, function, registerAddress, quantity }

def ConveyorNeedPutdownRoute.ofToml (value : Toml) :
    Option ConveyorNeedPutdownRoute := do
  let fields <- conversions.asStruct
    ["location", "device", "slave_id", "function", "register_address",
      "value"] value
  let location <- fields.required "location" conversions.asString
  let device <- fields.required "device" conversions.asString
  let slaveId <- fields.withDefault "slave_id" conversions.asU8 defaultModbusSlaveId
  let function <-
    fields.withDefault "function" (ConveyorWriteFunction.ofToml conversions) default
  let registerAddress <- fields.required "register_address" conversions.asU16
  let value <- fields.required "value" conversions.asU16
  pure { location, device, slaveId, function, registerAddress, value }

def ConveyorConfig.ofToml (value : Toml) : Option ConveyorConfig := do
  let fields <- conversions.asStruct
    ["send_routes", "send_success_checks", "can_putdown_checks",
      "need_putdown_routes", "webhooks"] value
  let sendRoutes <- fields.withDefault "send_routes"
    (conversions.asVec (ConveyorSendRoute.ofToml conversions)) []
  let sendSuccessChecks <- fields.withDefault "send_success_checks"
    (conversions.asVec (ConveyorSendSuccessCheck.ofToml conversions)) []
  let canPutdownChecks <- fields.withDefault "can_putdown_checks"
    (conversions.asVec (ConveyorReadCheck.ofToml conversions)) []
  let needPutdownRoutes <- fields.withDefault "need_putdown_routes"
    (conversions.asVec (ConveyorNeedPutdownRoute.ofToml conversions)) []
  let webhooks <- fields.withDefault "webhooks"
    (conversions.asVec (WebhookConfig.ofToml conversions)) []
  pure
    { sendRoutes, sendSuccessChecks, canPutdownChecks, needPutdownRoutes
      webhooks }

def ServerConfig.ofToml (value : Toml) : Option ServerConfig := do
  let fields <- conversions.asStruct ["listen_addr"] value
  let listenAddr <-
    fields.withDefault "listen_addr" conversions.asString defaultListenAddr
  pure { listenAddr }

def LoggingConfig.ofToml (value : Toml) : Option LoggingConfig := do
  let fields <- conversions.asStruct
    ["retained_days", "cleanup_interval_hours"] value
  let retainedDays <- fields.withDefault "retained_days" (conversions.asUnsigned 64)
    defaultLogRetainedDays
  let cleanupIntervalHours <- fields.withDefault "cleanup_interval_hours"
    (conversions.asUnsigned 64) defaultLogCleanupIntervalHours
  pure { retainedDays, cleanupIntervalHours }

def ModbusConfig.ofToml (value : Toml) : Option ModbusConfig := do
  let fields <- conversions.asStruct
    ["connect_timeout_ms", "reconnect_delay_ms", "max_connect_attempts",
      "pool_max_size", "operation_timeout_ms"] value
  let connectTimeoutMs <- fields.withDefault "connect_timeout_ms"
    (conversions.asUnsigned 64) defaultModbusConnectTimeoutMs
  let reconnectDelayMs <- fields.withDefault "reconnect_delay_ms"
    (conversions.asUnsigned 64) defaultModbusReconnectDelayMs
  let maxConnectAttempts <- fields.withDefault "max_connect_attempts"
    (conversions.asUnsigned 64) defaultModbusMaxConnectAttempts
  let poolMaxSize <- fields.withDefault "pool_max_size" (conversions.asUnsigned 64)
    defaultModbusPoolMaxSize
  let operationTimeoutMs <- fields.withDefault "operation_timeout_ms"
    (conversions.asUnsigned 64) defaultModbusOperationTimeoutMs
  pure
    { connectTimeoutMs, reconnectDelayMs, maxConnectAttempts, poolMaxSize
      operationTimeoutMs }

def loadConfig (file : Fields) : Option AppConfig := do
  let file <-
    conversions.asStruct ["server", "logging", "modbus", "conveyor"] (.table file)
  let server <- file.withDefault "server" (ServerConfig.ofToml conversions) default
  let logging <- file.withDefault "logging" (LoggingConfig.ofToml conversions) default
  let modbus <- file.withDefault "modbus" (ModbusConfig.ofToml conversions) default
  let conveyor <-
    file.withDefault "conveyor" (ConveyorConfig.ofToml conversions) default
  pure { server, logging, modbus, conveyor }

end Records

/-!
## Every table loads

A file that spells all fields out is loaded back as it was written, so any
conveyor section can be the one of an accepted file: there is no check across
entries, and none of the address or the function of an entry beyond its type.
-/

namespace Toml

def ofU8 (value : UInt8) : Toml := integer value.toNat

def ofU16 (value : UInt16) : Toml := integer value.toNat

end Toml

namespace Conversions.Lawful

variable {conversions : Conversions} (lawful : conversions.Lawful)

include lawful

theorem bind_table {B : Type} {names : List String} {entries : Fields}
    {next : Fields -> Option B} {b : B}
    (hnames : (entries.map Prod.fst).Sublist names)
    (hnext : next entries = some b) :
    (conversions.asStruct names (.table entries) >>= next) = some b := by
  rw [lawful.table names entries hnames]
  exact hnext

theorem asU8_ofU8 (value : UInt8) :
    conversions.asU8 (.ofU8 value) = some value := by
  have hlt := value.toNat_lt
  have hread := lawful.unsigned 8 value.toNat hlt (by omega)
  simp [asU8, Toml.ofU8, hread]

theorem asU16_ofU16 (value : UInt16) :
    conversions.asU16 (.ofU16 value) = some value := by
  have hlt := value.toNat_lt
  have hread := lawful.unsigned 16 value.toNat hlt (by omega)
  simp [asU16, Toml.ofU16, hread]

theorem asVec_map {A : Type} {read : Toml -> Option A} {write : A -> Toml}
    (hread : forall a, read (write a) = some a) (l : List A) :
    conversions.asVec read (.array (l.map write)) = some l := by
  rw [asVec, lawful.array, Option.bind_some]
  induction l with
  | nil => rfl
  | cons a rest ih => simp [hread a, ih]

theorem writeFunction_asStr (function : ConveyorWriteFunction) :
    ConveyorWriteFunction.ofToml conversions (.string function.asStr) =
      some function := by
  rw [ConveyorWriteFunction.ofToml, lawful.variant _ _ function.asStr_mem]
  exact function.deserialize_asStr

theorem readFunction_asStr (function : ConveyorReadFunction) :
    ConveyorReadFunction.ofToml conversions (.string function.asStr) =
      some function := by
  rw [ConveyorReadFunction.ofToml, lawful.variant _ _ function.asStr_mem]
  exact function.deserialize_asStr

end Conversions.Lawful

def WebhookConfig.toToml (webhook : WebhookConfig) : Toml :=
  .table [("name", .string webhook.name), ("url", .string webhook.url)]

def ConveyorSendRoute.toToml (route : ConveyorSendRoute) : Toml :=
  .table
    [("source", .string route.source),
      ("destination", .string route.destination),
      ("device", .string route.device), ("slave_id", .ofU8 route.slaveId),
      ("function", .string route.function.asStr),
      ("register_address", .ofU16 route.registerAddress),
      ("value", .ofU16 route.value)]

def ConveyorReadCheck.toToml (check : ConveyorReadCheck) : Toml :=
  .table
    ([("location", .string check.location), ("device", .string check.device),
      ("slave_id", .ofU8 check.slaveId),
      ("function", .string check.function.asStr),
      ("register_address", .ofU16 check.registerAddress),
      ("quantity", .ofU16 check.quantity)] ++
      check.hookNotify.toList.map (fun name => ("hook_notify", .string name)))

def ConveyorSendSuccessCheck.toToml (check : ConveyorSendSuccessCheck) : Toml :=
  .table
    [("source", .string check.source), ("device", .string check.device),
      ("slave_id", .ofU8 check.slaveId),
      ("function", .string check.function.asStr),
      ("register_address", .ofU16 check.registerAddress),
      ("quantity", .ofU16 check.quantity)]

def ConveyorNeedPutdownRoute.toToml (route : ConveyorNeedPutdownRoute) : Toml :=
  .table
    [("location", .string route.location), ("device", .string route.device),
      ("slave_id", .ofU8 route.slaveId),
      ("function", .string route.function.asStr),
      ("register_address", .ofU16 route.registerAddress),
      ("value", .ofU16 route.value)]

def ConveyorConfig.toToml (conveyor : ConveyorConfig) : Toml :=
  .table
    [("send_routes", .array (conveyor.sendRoutes.map ConveyorSendRoute.toToml)),
      ("send_success_checks",
        .array (conveyor.sendSuccessChecks.map ConveyorSendSuccessCheck.toToml)),
      ("can_putdown_checks",
        .array (conveyor.canPutdownChecks.map ConveyorReadCheck.toToml)),
      ("need_putdown_routes",
        .array (conveyor.needPutdownRoutes.map ConveyorNeedPutdownRoute.toToml)),
      ("webhooks", .array (conveyor.webhooks.map WebhookConfig.toToml))]

section Loaded

variable {conversions : Conversions} (lawful : conversions.Lawful)

include lawful

theorem WebhookConfig.ofToml_toToml (webhook : WebhookConfig) :
    ofToml conversions webhook.toToml = some webhook := by
  apply lawful.bind_table
  · exact .refl _
  apply Fields.bind_read (a := webhook.name) (by simp [lawful.string])
  apply Fields.bind_read (a := webhook.url) (by simp [lawful.string])
  rfl

theorem ConveyorSendRoute.ofToml_toToml (route : ConveyorSendRoute) :
    ofToml conversions route.toToml = some route := by
  apply lawful.bind_table
  · exact .refl _
  apply Fields.bind_read (a := route.source) (by simp [lawful.string])
  apply Fields.bind_read (a := route.destination) (by simp [lawful.string])
  apply Fields.bind_read (a := route.device) (by simp [lawful.string])
  apply Fields.bind_read (a := route.slaveId) (by simp [lawful.asU8_ofU8])
  apply Fields.bind_read (a := route.function) (by simp [lawful.writeFunction_asStr])
  apply Fields.bind_read (a := route.registerAddress) (by simp [lawful.asU16_ofU16])
  apply Fields.bind_read (a := route.value) (by simp [lawful.asU16_ofU16])
  rfl

theorem hookNotify_toToml (hookNotify : Option String) :
    Fields.withDefault
        (hookNotify.toList.map (fun name => ("hook_notify", Toml.string name)))
        "hook_notify" (fun value => (conversions.asString value).map some)
        none =
      some hookNotify := by
  cases hookNotify <;> simp [lawful.string]

theorem ConveyorReadCheck.ofToml_toToml (check : ConveyorReadCheck) :
    ofToml conversions check.toToml = some check := by
  apply lawful.bind_table
  · cases check.hookNotify <;> simp
  apply Fields.bind_read (a := check.location) (by simp [lawful.string])
  apply Fields.bind_read (a := check.device) (by simp [lawful.string])
  apply Fields.bind_read (a := check.slaveId) (by simp [lawful.asU8_ofU8])
  apply Fields.bind_read (a := check.function) (by simp [lawful.readFunction_asStr])
  apply Fields.bind_read (a := check.registerAddress) (by simp [lawful.asU16_ofU16])
  apply Fields.bind_read (a := check.quantity) (by simp [lawful.asU16_ofU16])
  apply Fields.bind_read (a := check.hookNotify) (by
    simp [hookNotify_toToml lawful])
  rfl

theorem ConveyorSendSuccessCheck.ofToml_toToml (check : ConveyorSendSuccessCheck) :
    ofToml conversions check.toToml = some check := by
  apply lawful.bind_table
  · exact .refl _
  apply Fields.bind_read (a := check.source) (by simp [lawful.string])
  apply Fields.bind_read (a := check.device) (by simp [lawful.string])
  apply Fields.bind_read (a := check.slaveId) (by simp [lawful.asU8_ofU8])
  apply Fields.bind_read (a := check.function) (by simp [lawful.readFunction_asStr])
  apply Fields.bind_read (a := check.registerAddress) (by simp [lawful.asU16_ofU16])
  apply Fields.bind_read (a := check.quantity) (by simp [lawful.asU16_ofU16])
  rfl

theorem ConveyorNeedPutdownRoute.ofToml_toToml (route : ConveyorNeedPutdownRoute) :
    ofToml conversions route.toToml = some route := by
  apply lawful.bind_table
  · exact .refl _
  apply Fields.bind_read (a := route.location) (by simp [lawful.string])
  apply Fields.bind_read (a := route.device) (by simp [lawful.string])
  apply Fields.bind_read (a := route.slaveId) (by simp [lawful.asU8_ofU8])
  apply Fields.bind_read (a := route.function) (by simp [lawful.writeFunction_asStr])
  apply Fields.bind_read (a := route.registerAddress) (by simp [lawful.asU16_ofU16])
  apply Fields.bind_read (a := route.value) (by simp [lawful.asU16_ofU16])
  rfl

theorem ConveyorConfig.ofToml_toToml (conveyor : ConveyorConfig) :
    ofToml conversions conveyor.toToml = some conveyor := by
  apply lawful.bind_table
  · exact .refl _
  apply Fields.bind_read (a := conveyor.sendRoutes) (by
    simp [lawful.asVec_map (ConveyorSendRoute.ofToml_toToml lawful)])
  apply Fields.bind_read (a := conveyor.sendSuccessChecks) (by
    simp [lawful.asVec_map (ConveyorSendSuccessCheck.ofToml_toToml lawful)])
  apply Fields.bind_read (a := conveyor.canPutdownChecks) (by
    simp [lawful.asVec_map (ConveyorReadCheck.ofToml_toToml lawful)])
  apply Fields.bind_read (a := conveyor.needPutdownRoutes) (by
    simp [lawful.asVec_map (ConveyorNeedPutdownRoute.ofToml_toToml lawful)])
  apply Fields.bind_read (a := conveyor.webhooks) (by
    simp [lawful.asVec_map (WebhookConfig.ofToml_toToml lawful)])
  rfl

/-- Any conveyor section, with the other sections left at their defaults. -/
theorem loadConfig_conveyor (conveyor : ConveyorConfig) :
    loadConfig conversions [("conveyor", conveyor.toToml)] =
      some
        { server := default
          logging := default
          modbus := default
          conveyor := conveyor } := by
  have hread := ConveyorConfig.ofToml_toToml lawful conveyor
  apply lawful.bind_table
  · simp
  simp [hread]

end Loaded

end ConveyorModbus
