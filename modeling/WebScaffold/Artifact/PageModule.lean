import WebScaffold.Route
import WebScaffold.Template.Basic
import WebScaffold.Text.Lines

/-!
# Page modules

The module of a page, for a list or for one item. A page made by the server asks the database first
and falls back to the rows at hand; a static page knows these rows only, and a static page of one
item enumerates its parameters at build time.
-/

namespace WebScaffold.Artifact

def importFixtures : String :=
  r#"import fixtures from "__SRC__/lib/fixtures.json";"#

def importDatabase : String :=
  r#"import { db } from "__SRC__/lib/db";"#

def rowsFromFixtures : String :=
  r#"const rows = ((fixtures as any)["__COLLECTION__"] || []) as any[];"#

def noRows : String := "const rows: any[] = [];"

def serverListHead : List String :=
  ["",
    r"async function getItems() {",
    r#"  const model = (db as any)?.["__SINGULAR__"];"#,
    r"  if (process.env.DATABASE_URL && model?.findMany) {",
    r"    try {",
    "      return (await model.findMany({ take: 50 })) as any[];",
    r"    } catch {}",
    r"  }",
    "  return rows;",
    r"}",
    "",
    r"export default async function Page() {",
    "  const items = await getItems();"]

def staticListHead : List String :=
  ["",
    r"export default function Page() {",
    "  const items = rows;"]

def listView : List String :=
  ["  return (",
    r"    <main style={{ padding: 24 }}>",
    r#"      <h1>{"__TITLE__"}</h1>"#,
    r#"      <ul style={{ display: "grid", gap: 12, listStyle: "none", padding: 0 }}>"#,
    r"        {items.map((it: any) => (",
    r#"          <li key={String(it.id)} style={{ border: "1px solid #333", borderRadius: 12, padding: 12 }}>"#,
    r#"            <a href={"__BASE__/" + String(it.id)} style={{ textDecoration: "none" }}>"#,
    r#"              <div style={{ fontWeight: 600 }}>{it.title ?? it.name ?? "__LABEL__ #" + String(it.id)}</div>"#,
    r#"              <div style={{ opacity: 0.8 }}>{it.author ?? it.description ?? ""}</div>"#,
    "            </a>",
    "          </li>",
    r"        ))}",
    "      </ul>",
    "    </main>",
    "  );",
    r"}"]

/-- The function that reads the key of an item off the parameters of its page. -/
def keyReader : List String :=
  ["",
    "type Params = Record<string, string | string[]>;",
    "",
    r"function paramKey(params: Params): string {",
    r#"  const raw = params["__PARAM__"];"#,
    r#"  return Array.isArray(raw) ? raw.join("/") : String(raw);"#,
    r"}"]

def serverDetailHead : List String :=
  ["",
    r"async function getItem(id: string) {",
    r#"  const model = (db as any)?.["__SINGULAR__"];"#,
    r"  if (process.env.DATABASE_URL && model?.findUnique) {",
    r"    try {",
    r"      return await model.findUnique({ where: { id } });",
    r"    } catch {}",
    r"  }",
    "  return rows.find((x) => String(x.id) === id);",
    r"}",
    "",
    r"export default async function Page({ params }: { params: Params }) {",
    "  const item = await getItem(paramKey(params));"]

/-- The head of a static page of one item; `paramValue` is the expression for the parameter of a
row. It is code, not text, and so it is not a token. -/
def staticDetailHead (paramValue : String) : List String :=
  ["",
    r"export function generateStaticParams() {",
    r#"  return rows.map((x) => ({ ["__PARAM__"]: "# ++ paramValue ++ r" }));",
    r"}",
    "",
    r"export default function Page({ params }: { params: Params }) {",
    "  const item = rows.find((x) => String(x.id) === paramKey(params));"]

def detailView : List String :=
  [r"  if (!item) {",
    "    return (",
    r"      <main style={{ padding: 24 }}>",
    r#"        <h1>{"__TITLE__"}</h1>"#,
    "        <p>Not found.</p>",
    "      </main>",
    "    );",
    r"  }",
    "  return (",
    r"    <main style={{ padding: 24 }}>",
    r#"      <h1>{"__TITLE__"}</h1>"#,
    r#"      <div style={{ border: "1px solid #333", borderRadius: 12, padding: 16 }}>"#,
    r#"        <div style={{ fontWeight: 700, fontSize: 18 }}>{item.title ?? item.name ?? "__LABEL__ #" + String(item.id)}</div>"#,
    r#"        <div style={{ opacity: 0.8 }}>{item.author ?? item.description ?? ""}</div>"#,
    r##"        <pre style={{ marginTop: 12, background: "#111", padding: 12, borderRadius: 8 }}>"##,
    r"          {JSON.stringify(item, null, 2)}",
    "        </pre>",
    "      </div>",
    "    </main>",
    "  );",
    r"}"]

/-- The parameter of a row as an expression; a catch-all takes a list of segments. -/
def paramValue (param : Option PathParameter) : String :=
  if param.any (·.catchAll) then "[String(x.id)]" else "String(x.id)"

/-- The lines of a page's module before its tokens are filled in. -/
def pageLines (route : Route) (onServer withFixtures : Bool) : List String :=
  let imports :=
    (if withFixtures then [importFixtures] else []) ++ (if onServer then [importDatabase] else [])
  let rows := if withFixtures then rowsFromFixtures else noRows
  let code :=
    match route.kind, onServer with
    | .list, true => serverListHead ++ listView
    | .list, false => staticListHead ++ listView
    | .detail, true => keyReader ++ serverDetailHead ++ detailView
    | .detail, false => keyReader ++ staticDetailHead (paramValue route.param) ++ detailView
  imports ++ ["", rows] ++ code

def pageSource (route : Route) (onServer withFixtures : Bool) : String :=
  Text.lines (pageLines route onServer withFixtures)

def pageTitle (route : Route) : String :=
  let label := Text.capitalize route.singular
  match route.kind with
  | .list => label ++ " List"
  | .detail => label ++ " Detail"

/-- The tokens of a page's own. -/
def pageTokens (route : Route) : List (String × String) :=
  [("__SRC__", route.pathToSources), ("__COLLECTION__", route.collection),
    ("__SINGULAR__", route.singular), ("__TITLE__", pageTitle route),
    ("__LABEL__", Text.capitalize route.singular), ("__BASE__", route.linkBase)] ++
    match route.param with
    | some param => [("__PARAM__", param.name)]
    | none => []

/-- The module of a page; its own tokens win over the given ones. -/
def pageModule (route : Route) (tokens : Table String) (onServer withFixtures : Bool) :
    String :=
  Template.render (tokens.insertAll (pageTokens route)) (pageSource route onServer withFixtures)

end WebScaffold.Artifact
