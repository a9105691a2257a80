import WebScaffold.Spec.Basic
import WebScaffold.Text.Lines

/-!
# Hosting

The one file by which a host knows how to deploy the project.
-/

namespace WebScaffold.Artifact

/-- The settings of a server host, which name their format's version only. -/
def vercelSettings : String :=
  Text.lines [r"{", r#"  "version": 2"#, r"}"]

/-- The workflow that builds a static site and uploads it. -/
def pagesWorkflow : String :=
  Text.lines
    ["name: Deploy to GitHub Pages",
      "",
      "on:",
      "  push:",
      "    branches: [main]",
      "  workflow_dispatch:",
      "",
      "permissions:",
      "  contents: read",
      "  pages: write",
      "  id-token: write",
      "",
      "jobs:",
      "  deploy:",
      "    runs-on: ubuntu-latest",
      "    environment:",
      "      name: github-pages",
      r"      url: ${{ steps.deployment.outputs.page_url }}",
      "    steps:",
      "      - uses: actions/checkout@v4",
      "      - uses: actions/setup-node@v4",
      "        with:",
      "          node-version: 20",
      "          cache: npm",
      "      - run: npm i --no-fund --no-audit",
      "      - run: npm run build",
      "        env:",
      r#"          GITHUB_PAGES: "true""#,
      "      - uses: actions/upload-pages-artifact@v3",
      "        with:",
      "          path: out",
      "      - id: deployment",
      "        uses: actions/deploy-pages@v4"]

/-- The path and the content of a target's artifact. -/
def hostingFile : DeployTarget → String × String
  | .vercel => ("vercel.json", vercelSettings)
  | .githubPages => (".github/workflows/gh-pages.yml", pagesWorkflow)

end WebScaffold.Artifact
