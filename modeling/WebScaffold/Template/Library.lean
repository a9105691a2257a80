import WebScaffold.Template.Basic
import WebScaffold.Text.Lines

/-!
# The template library

The templates that files are made of. Tokens stand inside string literals only. The icon is kept as
bytes: a header, sixteen rows of sixteen equal pixels, and an empty mask. Of the files that every
project has, the landing page and the layout of the signed-in part have no template here.
-/

namespace WebScaffold.Template

def nextConfig : String :=
  Text.lines
    ["/** Next.js config; GITHUB_PAGES=true switches to a static export. */",
      r#"const isGH = process.env.GITHUB_PAGES === "true";"#,
      r"export default {",
      r#"    output: isGH ? "export" : undefined,"#,
      "    images: { unoptimized: true },",
      r"};"]

def compilerConfig : String :=
  Text.lines
    [r"{",
      r#"  "compilerOptions": {"#,
      r#"    "target": "ES2020","#,
      r#"    "lib": ["dom", "dom.iterable", "esnext"],"#,
      r#"    "allowJs": false,"#,
      r#"    "skipLibCheck": true,"#,
      r#"    "strict": true,"#,
      r#"    "noEmit": true,"#,
      r#"    "esModuleInterop": true,"#,
      r#"    "module": "esnext","#,
      r#"    "moduleResolution": "bundler","#,
      r#"    "resolveJsonModule": true,"#,
      r#"    "isolatedModules": true,"#,
      r#"    "jsx": "preserve","#,
      r#"    "incremental": true,"#,
      r#"    "plugins": [{ "name": "next" }],"#,
      r#"    "paths": { "@/*": ["./src/*"] }"#,
      r"  },",
      r#"  "include": ["next-env.d.ts", "**/*.ts", "**/*.tsx", ".next/types/**/*.ts"],"#,
      r#"  "exclude": ["node_modules"]"#,
      r"}"]

def ambientTypes : String :=
  Text.lines
    [r#"/// <reference types="next" />"#,
      r#"/// <reference types="next/image-types/global" />"#,
      "",
      "// NOTE: This file should not be edited",
      "// see https://nextjs.org/docs/basic-features/typescript for more information."]

def rootLayout : String :=
  Text.lines
    [r#"import type { Metadata } from "next";"#,
      r#"import type { ReactNode } from "react";"#,
      "",
      r"export const metadata: Metadata = {",
      r#"    title: "__APP_NAME__","#,
      r#"    description: "__SUBHEAD__","#,
      r"};",
      "",
      r"export default function RootLayout({ children }: { children: ReactNode }) {",
      "    return (",
      r#"        <html lang="en">"#,
      r#"            <body style={{ margin: 0, fontFamily: "system-ui, sans-serif" }}>"#,
      "                {children}",
      "            </body>",
      "        </html>",
      "    );",
      r"}"]

def button : String :=
  Text.lines
    [r#"import React from "react";"#,
      "",
      r"export function Button(props: React.ButtonHTMLAttributes<HTMLButtonElement>) {",
      "    return (",
      "        <button",
      "            {...props}",
      r"            style={{",
      r#"                padding: "8px 12px","#,
      r#"                border: "1px solid #ccc","#,
      "                borderRadius: 6,",
      "                ...props.style,",
      r"            }}",
      "        />",
      "    );",
      r"}"]

def databaseClient : String :=
  Text.lines
    ["/**",
      " * Database client. Resolves to a Prisma client when DATABASE_URL is set and",
      " * @prisma/client is installed, otherwise to null so pages fall back to fixtures.",
      " */",
      r"function connect(): any {",
      "    if (!process.env.DATABASE_URL) return null;",
      r"    try {",
      "        // eslint-disable-next-line @typescript-eslint/no-var-requires",
      r#"        const { PrismaClient } = require("@prisma/client");"#,
      "        return new PrismaClient();",
      r"    } catch {",
      "        return null;",
      r"    }",
      r"}",
      "",
      "export const db: any = connect();"]

def seedScript : String :=
  Text.lines
    ["/** Seed script placeholder; add inserts for your models here. */",
      "export async function main() {}",
      "",
      "main()",
      "    .then(() => process.exit(0))",
      r"    .catch((e) => {",
      "        console.error(e);",
      "        process.exit(1);",
      r"    });"]

def checkWorkflow : String :=
  Text.lines
    ["name: CI",
      "",
      "on:",
      "  push:",
      "    branches: [main]",
      "  pull_request:",
      "",
      "jobs:",
      "  build:",
      "    runs-on: ubuntu-latest",
      "    steps:",
      "      - uses: actions/checkout@v4",
      "      - uses: actions/setup-node@v4",
      "        with:",
      "          node-version: 20",
      "          cache: npm",
      "      - run: npm i --no-fund --no-audit",
      "      - run: npm run typecheck",
      "      - run: npm run build"]

/-- The header of the icon: one image of sixteen by sixteen pixels. -/
def iconHeader : List UInt8 :=
  [0, 0, 1, 0, 1, 0, 16, 16, 0, 0, 1, 0, 32, 0, 104, 4, 0, 0, 22, 0,
    0, 0, 40, 0, 0, 0, 16, 0, 0, 0, 32, 0, 0, 0, 1, 0, 32, 0, 0, 0,
    0, 0, 64, 4, 0, 0, 0, 0, 0, 0, 0, 0, 0, 0, 0, 0, 0, 0, 0, 0,
    0, 0]

def iconPixel : List UInt8 :=
  [51, 51, 51, 239, 191, 189]

def icon : List UInt8 :=
  iconHeader ++ (List.replicate 256 iconPixel).flatten ++ List.replicate 64 0

/-- The templates by their ids. -/
def library : List (String × Template) :=
  [("web_app/next.config.mjs", .text nextConfig),
    ("web_app/tsconfig.json", .text compilerConfig),
    ("web_app/next-env.d.ts", .text ambientTypes),
    ("web_app/src/app/layout.tsx", .text rootLayout),
    ("web_app/src/components/ui/Button.tsx", .text button),
    ("web_app/src/lib/db.ts", .text databaseClient),
    ("web_app/prisma/seed.ts", .text seedScript),
    ("web_app/github/workflows/ci.yml", .text checkWorkflow),
    ("web_app/public/favicon.ico", .binary icon)]

/-- The template with an id, in which backslashes may stand for slashes. -/
def find? (id : String) : Option Template :=
  library.lookup (id.map fun c ↦ if c = '\\' then '/' else c)

end WebScaffold.Template
