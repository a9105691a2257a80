import WebScaffold.Json.Basic
import WebScaffold.Variant

/-!
# App specifications

What an app is to be: its name and purpose, the entities it stores, the pages it shows, and where
and how it runs. The closed choices carry the names by which documents refer to them.
-/

namespace WebScaffold

inductive Blueprint where
  | webApp
  | electronApp
deriving DecidableEq, Repr

instance : Variant Blueprint where
  all := [.webApp, .electronApp]
  name
    | .webApp => "web_app"
    | .electronApp => "electron_app"
  mem_all a := by cases a <;> simp
  name_injective a b := by cases a <;> cases b <;> simp

inductive FieldType where
  | string
  | text
  | int
  | float
  | bool
  | date
  | datetime
  | enum
  | json
deriving DecidableEq, Repr

instance : Variant FieldType where
  all := [.string, .text, .int, .float, .bool, .date, .datetime, .enum, .json]
  name
    | .string => "string"
    | .text => "text"
    | .int => "int"
    | .float => "float"
    | .bool => "bool"
    | .date => "date"
    | .datetime => "datetime"
    | .enum => "enum"
    | .json => "json"
  mem_all a := by cases a <;> simp
  name_injective a b := by cases a <;> cases b <;> simp

structure EntityField where
  name : String
  type : FieldType
  enumValues : Option (List String) := none
  optional : Option Bool := none
deriving DecidableEq, Repr

def EntityField.isOptional (field : EntityField) : Bool :=
  field.optional.getD false

/-- The values an enum field may take; absent values count as none. -/
def EntityField.values (field : EntityField) : List String :=
  field.enumValues.getD []

structure Entity where
  name : String
  fields : List EntityField
deriving DecidableEq, Repr

structure App where
  name : String
  purpose : String
  roles : List String
  entities : List Entity
deriving DecidableEq, Repr

inductive AuthMode where
  | none
  | emailMagic
  | googleOauth
deriving DecidableEq, Repr

instance : Variant AuthMode where
  all := [.none, .emailMagic, .googleOauth]
  name
    | .none => "none"
    | .emailMagic => "email_magic"
    | .googleOauth => "google_oauth"
  mem_all a := by cases a <;> simp
  name_injective a b := by cases a <;> cases b <;> simp

inductive PagePurpose where
  | landing
  | list
  | detail
  | form
  | dashboard
  | about
  | contact
  | faq
deriving DecidableEq, Repr

instance : Variant PagePurpose where
  all := [.landing, .list, .detail, .form, .dashboard, .about, .contact, .faq]
  name
    | .landing => "landing"
    | .list => "list"
    | .detail => "detail"
    | .form => "form"
    | .dashboard => "dashboard"
    | .about => "about"
    | .contact => "contact"
    | .faq => "faq"
  mem_all a := by cases a <;> simp
  name_injective a b := by cases a <;> cases b <;> simp

inductive SectionKind where
  | hero
  | features
  | faq
  | list
  | detail
  | form
  | contact
  | pricing
deriving DecidableEq, Repr

instance : Variant SectionKind where
  all := [.hero, .features, .faq, .list, .detail, .form, .contact, .pricing]
  name
    | .hero => "hero"
    | .features => "features"
    | .faq => "faq"
    | .list => "list"
    | .detail => "detail"
    | .form => "form"
    | .contact => "contact"
    | .pricing => "pricing"
  mem_all a := by cases a <;> simp
  name_injective a b := by cases a <;> cases b <;> simp

structure PageSection where
  kind : SectionKind
  headline : Option String := none
  subhead : Option String := none
  bullets : Option (List String) := none
  fields : Option (List String) := none
deriving DecidableEq, Repr

structure PageSpec where
  path : String
  purpose : PagePurpose
  entity : Option String := none
  sections : Option (List PageSection) := none
deriving DecidableEq, Repr

/-- A page is given by its path alone or with its purpose and content. -/
inductive PageDescriptor where
  | path (path : String)
  | detailed (page : PageSpec)
deriving DecidableEq, Repr

namespace PageDescriptor

def pagePath : PageDescriptor → String
  | path p => p
  | detailed page => page.path

/-- The entity that the page names, unless the name is empty. -/
def entity? : PageDescriptor → Option String
  | path _ => none
  | detailed page => page.entity.filter (· ≠ "")

def purpose? : PageDescriptor → Option PagePurpose
  | path _ => none
  | detailed page => some page.purpose

end PageDescriptor

inductive IntegrationProvider where
  | stripe
  | resend
  | supabase
  | customApi
deriving DecidableEq, Repr

instance : Variant IntegrationProvider where
  all := [.stripe, .resend, .supabase, .customApi]
  name
    | .stripe => "stripe"
    | .resend => "resend"
    | .supabase => "supabase"
    | .customApi => "custom_api"
  mem_all a := by cases a <;> simp
  name_injective a b := by cases a <;> cases b <;> simp

/-- An outside service. The members of its configuration are free-form. -/
structure Integration where
  provider : IntegrationProvider
  name : Option String := none
  config : Option (List (String × Json)) := none
deriving DecidableEq, Repr

structure Features where
  auth : AuthMode
  pages : List PageDescriptor
  uploads : Option Bool := none
  emails : Option Bool := none
  payments : Option Bool := none
  integrations : List Integration
deriving DecidableEq, Repr

/-- Static pages are made once, at build time; a server makes a page for each request. -/
inductive RenderMode where
  | static
  | server
deriving DecidableEq, Repr

instance : Variant RenderMode where
  all := [.static, .server]
  name
    | .static => "ssg"
    | .server => "ssr"
  mem_all a := by cases a <;> simp
  name_injective a b := by cases a <;> cases b <;> simp

inductive Database where
  | none
  | neon
  | turso
  | supabase
deriving DecidableEq, Repr

instance : Variant Database where
  all := [.none, .neon, .turso, .supabase]
  name
    | .none => "none"
    | .neon => "neon"
    | .turso => "turso"
    | .supabase => "supabase"
  mem_all a := by cases a <;> simp
  name_injective a b := by cases a <;> cases b <;> simp

structure Runtime where
  renderMode : RenderMode
  database : Database
deriving DecidableEq, Repr

/-- Vercel runs a server; GitHub Pages serves static files only. -/
inductive DeployTarget where
  | vercel
  | githubPages
deriving DecidableEq, Repr

instance : Variant DeployTarget where
  all := [.vercel, .githubPages]
  name
    | .vercel => "vercel"
    | .githubPages => "github_pages"
  mem_all a := by cases a <;> simp
  name_injective a b := by cases a <;> cases b <;> simp

def DeployTarget.isStaticHost (target : DeployTarget) : Bool :=
  target == .githubPages

structure Deploy where
  target : DeployTarget
  domain : Option String := none
deriving DecidableEq, Repr

structure AppSpec where
  blueprint : Blueprint
  app : App
  features : Features
  runtime : Runtime
  deploy : Deploy
deriving DecidableEq, Repr

end WebScaffold
