import WebScaffold.Spec.Basic
import WebScaffold.Text.Lines

/-!
# The sign-in route

The server route that handles signing in. A static site has no server routes, so it has none.
-/

namespace WebScaffold.Artifact

def signInPath : String := "src/app/api/auth/[...nextauth]/route.ts"

def googleSignIn : String :=
  Text.lines
    [r#"import NextAuth from "next-auth";"#,
      r#"import GoogleProvider from "next-auth/providers/google";"#,
      "",
      r"const handler = NextAuth({",
      "  providers: [",
      r"    GoogleProvider({",
      r#"      clientId: process.env.GOOGLE_CLIENT_ID || "","#,
      r#"      clientSecret: process.env.GOOGLE_CLIENT_SECRET || "","#,
      r"    }),",
      "  ],",
      r"});",
      "",
      "export { handler as GET, handler as POST };"]

def emailSignIn : String :=
  Text.lines
    [r#"import NextAuth from "next-auth";"#,
      r#"import EmailProvider from "next-auth/providers/email";"#,
      "",
      r"const handler = NextAuth({",
      "  providers: [",
      r"    EmailProvider({",
      r"      async sendVerificationRequest({ url }) {",
      r#"        console.log("Magic link:", url);"#,
      r"      },",
      r"    }),",
      "  ],",
      r"});",
      "",
      "export { handler as GET, handler as POST };"]

def signInRoute? (auth : AuthMode) (onServer : Bool) : Option String :=
  match auth, onServer with
  | .googleOauth, true => some googleSignIn
  | .emailMagic, true => some emailSignIn
  | _, _ => none

end WebScaffold.Artifact
