import ClusterRegistry.Spec.Form

/-!
# Teams, roles, secrets and settings

The kinds that say who may do what, and with which secrets, settings and licences. Secrets,
settings and teams must say where they come from: their metadata has an entry for the origin.
-/

namespace ClusterRegistry

/-- A secret. -/
structure Secret where
  secretType : String := ""
  data : Table String String := .empty
  metadata : Table String String := .empty

/-- A map of settings. -/
structure SettingsMap where
  metadata : Table String String := .empty
  data : Table String String := .empty

/-- A licence for a product. -/
structure License where
  product : String := ""
  activationCode : String := ""
  expiredAt : String := ""

/-- A team. -/
structure Team where
  name : String := ""
  description : String := ""
  metadata : Table String String := .empty

/-- An origin of resources. -/
structure Origin where
  name : String := ""

/-- A role. -/
structure Role where
  name : String := ""
  description : String := ""

/-- A permission of a role. -/
structure Permission where
  roleId : String := ""
  name : String := ""
  description : String := ""

/-- The entry of metadata that says where a resource comes from. -/
def originEntry : String := "origin"

/-- The metadata must say where the resource comes from. -/
def originGiven {α : Type} (metadata : α → Table String String) : Requirement α :=
  entryFilled "metadata.origin" originEntry metadata

/-- The fields of secrets. -/
def Secret.form : Form Secret where
  blank := {}
  fields :=
    .field "secret_type" (·.secretType) (fun v s => { s with secretType := v }) .text <|
    .field "data" (·.data) (fun v s => { s with data := v }) .texts <|
    .field "metadata" (·.metadata) (fun v s => { s with metadata := v }) .texts
    .none
  requirements := [filled "secret_type" (·.secretType), originGiven (·.metadata)]

/-- The fields of settings. -/
def SettingsMap.form : Form SettingsMap where
  blank := {}
  fields :=
    .field "metadata" (·.metadata) (fun v s => { s with metadata := v }) .texts <|
    .field "data" (·.data) (fun v s => { s with data := v }) .texts
    .none
  requirements := [originGiven (·.metadata)]

/-- The fields of licences. -/
def License.form : Form License where
  blank := {}
  fields :=
    .field "product" (·.product) (fun v l => { l with product := v }) .text <|
    .field "activation_code" (·.activationCode) (fun v l => { l with activationCode := v })
      .text <|
    .field "expired_at" (·.expiredAt) (fun v l => { l with expiredAt := v }) .text
    .none
  requirements := [filled "product" (·.product)]

/-- The fields of teams. -/
def Team.form : Form Team where
  blank := {}
  fields :=
    .field "name" (·.name) (fun v t => { t with name := v }) .text <|
    .field "description" (·.description) (fun v t => { t with description := v }) .text <|
    .field "metadata" (·.metadata) (fun v t => { t with metadata := v }) .texts
    .none
  requirements := [originGiven (·.metadata)]
  ownName t := some t.name

/-- The fields of origins. -/
def Origin.form : Form Origin where
  blank := {}
  fields := .field "name" (·.name) (fun v o => { o with name := v }) .text .none
  ownName o := some o.name

/-- The fields of roles. -/
def Role.form : Form Role where
  blank := {}
  fields :=
    .field "name" (·.name) (fun v r => { r with name := v }) .text <|
    .field "description" (·.description) (fun v r => { r with description := v }) .text
    .none
  ownName r := some r.name

/-- The fields of permissions. -/
def Permission.form : Form Permission where
  blank := {}
  fields :=
    .field "role_id" (·.roleId) (fun v p => { p with roleId := v }) .text <|
    .field "name" (·.name) (fun v p => { p with name := v }) .text <|
    .field "description" (·.description) (fun v p => { p with description := v }) .text
    .none
  requirements := [filled "role_id" (·.roleId)]
  references p := [.must "role_id" .role p.roleId]
  ownName p := some p.name

end ClusterRegistry
