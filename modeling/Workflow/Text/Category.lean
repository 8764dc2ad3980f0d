import Workflow.Text.Letter
import Workflow.Text.Blank

/-!
# 一般カテゴリ

code point を Unicode 15.0 の一般カテゴリ（General_Category）に分ける。正規表現の文字クラス
（`\d`、`\w`、`\p{L}` など）がこれを使う。

表は、同じカテゴリが続く区間の先頭の code point と、そのカテゴリの符号の列である。一つの区間を
7 文字で書く：先頭の code point を 16 進 6 桁、続けてカテゴリの符号 1 文字。符号は
`Category.all` の並びの位置で、`A` から `Z`、続けて `a` から `d` を使う。

## 停止性

`lastRunAtMost` は探す幅 `hi - lo` が毎回縮む。
-/

namespace Workflow.Text

/-- 一般カテゴリ。 -/
inductive Category where
  | Cc | Cf | Cn | Co | Cs
  | Ll | Lm | Lo | Lt | Lu
  | Mc | Me | Mn
  | Nd | Nl | No
  | Pc | Pd | Pe | Pf | Pi | Po | Ps
  | Sc | Sk | Sm | So
  | Zl | Zp | Zs
  deriving BEq, Repr, DecidableEq

namespace Category

/-- すべてのカテゴリ。表の符号の順である。 -/
def all : List Category :=
  [.Cc, .Cf, .Cn, .Co, .Cs, .Ll, .Lm, .Lo, .Lt, .Lu, .Mc, .Me, .Mn, .Nd, .Nl, .No,
   .Pc, .Pd, .Pe, .Pf, .Pi, .Po, .Ps, .Sc, .Sk, .Sm, .So, .Zl, .Zp, .Zs]

/-- 表の符号の文字。 -/
def codes : List Char :=
  "ABCDEFGHIJKLMNOPQRSTUVWXYZabcd".toList

/-- 符号の文字のカテゴリ。知らない符号は未割り当て（`Cn`）とする。 -/
def ofCode (c : Char) : Category :=
  ((codes.zip all).lookup c).getD .Cn

/-- 略称（`Lu` など）。 -/
def shortName : Category → String
  | .Cc => "Cc" | .Cf => "Cf" | .Cn => "Cn" | .Co => "Co" | .Cs => "Cs"
  | .Ll => "Ll" | .Lm => "Lm" | .Lo => "Lo" | .Lt => "Lt" | .Lu => "Lu"
  | .Mc => "Mc" | .Me => "Me" | .Mn => "Mn"
  | .Nd => "Nd" | .Nl => "Nl" | .No => "No"
  | .Pc => "Pc" | .Pd => "Pd" | .Pe => "Pe" | .Pf => "Pf" | .Pi => "Pi" | .Po => "Po" | .Ps => "Ps"
  | .Sc => "Sc" | .Sk => "Sk" | .Sm => "Sm" | .So => "So"
  | .Zl => "Zl" | .Zp => "Zp" | .Zs => "Zs"

/-- 正式名（`Uppercase_Letter` など）。 -/
def longName : Category → String
  | .Cc => "Control" | .Cf => "Format" | .Cn => "Unassigned" | .Co => "Private_Use"
  | .Cs => "Surrogate" | .Ll => "Lowercase_Letter" | .Lm => "Modifier_Letter"
  | .Lo => "Other_Letter" | .Lt => "Titlecase_Letter" | .Lu => "Uppercase_Letter"
  | .Mc => "Spacing_Mark" | .Me => "Enclosing_Mark" | .Mn => "Nonspacing_Mark"
  | .Nd => "Decimal_Number" | .Nl => "Letter_Number" | .No => "Other_Number"
  | .Pc => "Connector_Punctuation" | .Pd => "Dash_Punctuation" | .Pe => "Close_Punctuation"
  | .Pf => "Final_Punctuation" | .Pi => "Initial_Punctuation" | .Po => "Other_Punctuation"
  | .Ps => "Open_Punctuation" | .Sc => "Currency_Symbol" | .Sk => "Modifier_Symbol"
  | .Sm => "Math_Symbol" | .So => "Other_Symbol" | .Zl => "Line_Separator"
  | .Zp => "Paragraph_Separator" | .Zs => "Space_Separator"

end Category

/-- 区間の先頭とカテゴリの符号を並べた表の文字列。 -/
def categoryText : String :=
  String.join [
    "000000A000020d000021V000024X000025V000028W000029S00002AV00002BZ00002CV00002DR00002EV000030N",
    "00003AV00003CZ00003FV000041J00005BW00005CV00005DS00005EY00005FQ000060Y000061F00007BW00007CZ",
    "00007DS00007EZ00007FA0000A0d0000A1V0000A2X0000A6a0000A7V0000A8Y0000A9a0000AAH0000ABU0000ACZ",
    "0000ADB0000AEa0000AFY0000B0a0000B1Z0000B2P0000B4Y0000B5F0000B6V0000B8Y0000B9P0000BAH0000BBT",
    "0000BCP0000BFV0000C0J0000D7Z0000D8J0000DFF0000F7Z0000F8F000100J000101F000102J000103F000104J",
    "000105F000106J000107F000108J000109F00010AJ00010BF00010CJ00010DF00010EJ00010FF000110J000111F",
    "000112J000113F000114J000115F000116J000117F000118J000119F00011AJ00011BF00011CJ00011DF00011EJ",
    "00011FF000120J000121F000122J000123F000124J000125F000126J000127F000128J000129F00012AJ00012BF",
    "00012CJ00012DF00012EJ00012FF000130J000131F000132J000133F000134J000135F000136J000137F000139J",
    "00013AF00013BJ00013CF00013DJ00013EF00013FJ000140F000141J000142F000143J000144F000145J000146F",
    "000147J000148F00014AJ00014BF00014CJ00014DF00014EJ00014FF000150J000151F000152J000153F000154J",
    "000155F000156J000157F000158J000159F00015AJ00015BF00015CJ00015DF00015EJ00015FF000160J000161F",
    "000162J000163F000164J000165F000166J000167F000168J000169F00016AJ00016BF00016CJ00016DF00016EJ",
    "00016FF000170J000171F000172J000173F000174J000175F000176J000177F000178J00017AF00017BJ00017CF",
    "00017DJ00017EF000181J000183F000184J000185F000186J000188F000189J00018CF00018EJ000192F000193J",
    "000195F000196J000199F00019CJ00019EF00019FJ0001A1F0001A2J0001A3F0001A4J0001A5F0001A6J0001A8F",
    "0001A9J0001AAF0001ACJ0001ADF0001AEJ0001B0F0001B1J0001B4F0001B5J0001B6F0001B7J0001B9F0001BBH",
    "0001BCJ0001BDF0001C0H0001C4J0001C5I0001C6F0001C7J0001C8I0001C9F0001CAJ0001CBI0001CCF0001CDJ",
    "0001CEF0001CFJ0001D0F0001D1J0001D2F0001D3J0001D4F0001D5J0001D6F0001D7J0001D8F0001D9J0001DAF",
    "0001DBJ0001DCF0001DEJ0001DFF0001E0J0001E1F0001E2J0001E3F0001E4J0001E5F0001E6J0001E7F0001E8J",
    "0001E9F0001EAJ0001EBF0001ECJ0001EDF0001EEJ0001EFF0001F1J0001F2I0001F3F0001F4J0001F5F0001F6J",
    "0001F9F0001FAJ0001FBF0001FCJ0001FDF0001FEJ0001FFF000200J000201F000202J000203F000204J000205F",
    "000206J000207F000208J000209F00020AJ00020BF00020CJ00020DF00020EJ00020FF000210J000211F000212J",
    "000213F000214J000215F000216J000217F000218J000219F00021AJ00021BF00021CJ00021DF00021EJ00021FF",
    "000220J000221F000222J000223F000224J000225F000226J000227F000228J000229F00022AJ00022BF00022CJ",
    "00022DF00022EJ00022FF000230J000231F000232J000233F00023AJ00023CF00023DJ00023FF000241J000242F",
    "000243J000247F000248J000249F00024AJ00024BF00024CJ00024DF00024EJ00024FF000294H000295F0002B0G",
    "0002C2Y0002C6G0002D2Y0002E0G0002E5Y0002ECG0002EDY0002EEG0002EFY000300M000370J000371F000372J",
    "000373F000374G000375Y000376J000377F000378C00037AG00037BF00037EV00037FJ000380C000384Y000386J",
    "000387V000388J00038BC00038CJ00038DC00038EJ000390F000391J0003A2C0003A3J0003ACF0003CFJ0003D0F",
    "0003D2J0003D5F0003D8J0003D9F0003DAJ0003DBF0003DCJ0003DDF0003DEJ0003DFF0003E0J0003E1F0003E2J",
    "0003E3F0003E4J0003E5F0003E6J0003E7F0003E8J0003E9F0003EAJ0003EBF0003ECJ0003EDF0003EEJ0003EFF",
    "0003F4J0003F5F0003F6Z0003F7J0003F8F0003F9J0003FBF0003FDJ000430F000460J000461F000462J000463F",
    "000464J000465F000466J000467F000468J000469F00046AJ00046BF00046CJ00046DF00046EJ00046FF000470J",
    "000471F000472J000473F000474J000475F000476J000477F000478J000479F00047AJ00047BF00047CJ00047DF",
    "00047EJ00047FF000480J000481F000482a000483M000488L00048AJ00048BF00048CJ00048DF00048EJ00048FF",
    "000490J000491F000492J000493F000494J000495F000496J000497F000498J000499F00049AJ00049BF00049CJ",
    "00049DF00049EJ00049FF0004A0J0004A1F0004A2J0004A3F0004A4J0004A5F0004A6J0004A7F0004A8J0004A9F",
    "0004AAJ0004ABF0004ACJ0004ADF0004AEJ0004AFF0004B0J0004B1F0004B2J0004B3F0004B4J0004B5F0004B6J",
    "0004B7F0004B8J0004B9F0004BAJ0004BBF0004BCJ0004BDF0004BEJ0004BFF0004C0J0004C2F0004C3J0004C4F",
    "0004C5J0004C6F0004C7J0004C8F0004C9J0004CAF0004CBJ0004CCF0004CDJ0004CEF0004D0J0004D1F0004D2J",
    "0004D3F0004D4J0004D5F0004D6J0004D7F0004D8J0004D9F0004DAJ0004DBF0004DCJ0004DDF0004DEJ0004DFF",
    "0004E0J0004E1F0004E2J0004E3F0004E4J0004E5F0004E6J0004E7F0004E8J0004E9F0004EAJ0004EBF0004ECJ",
    "0004EDF0004EEJ0004EFF0004F0J0004F1F0004F2J0004F3F0004F4J0004F5F0004F6J0004F7F0004F8J0004F9F",
    "0004FAJ0004FBF0004FCJ0004FDF0004FEJ0004FFF000500J000501F000502J000503F000504J000505F000506J",
    "000507F000508J000509F00050AJ00050BF00050CJ00050DF00050EJ00050FF000510J000511F000512J000513F",
    "000514J000515F000516J000517F000518J000519F00051AJ00051BF00051CJ00051DF00051EJ00051FF000520J",
    "000521F000522J000523F000524J000525F000526J000527F000528J000529F00052AJ00052BF00052CJ00052DF",
    "00052EJ00052FF000530C000531J000557C000559G00055AV000560F000589V00058AR00058BC00058Da00058FX",
    "000590C000591M0005BER0005BFM0005C0V0005C1M0005C3V0005C4M0005C6V0005C7M0005C8C0005D0H0005EBC",
    "0005EFH0005F3V0005F5C000600B000606Z000609V00060BX00060CV00060Ea000610M00061BV00061CB00061DV",
    "000620H000640G000641H00064BM000660N00066AV00066EH000670M000671H0006D4V0006D5H0006D6M0006DDB",
    "0006DEa0006DFM0006E5G0006E7M0006E9a0006EAM0006EEH0006F0N0006FAH0006FDa0006FFH000700V00070EC",
    "00070FB000710H000711M000712H000730M00074BC00074DH0007A6M0007B1H0007B2C0007C0N0007CAH0007EBM",
    "0007F4G0007F6a0007F7V0007FAG0007FBC0007FDM0007FEX000800H000816M00081AG00081BM000824G000825M",
    "000828G000829M00082EC000830V00083FC000840H000859M00085CC00085EV00085FC000860H00086BC000870H",
    "000888Y000889H00088FC000890B000892C000898M0008A0H0008C9G0008CAM0008E2B0008E3M000903K000904H",
    "00093AM00093BK00093CM00093DH00093EK000941M000949K00094DM00094EK000950H000951M000958H000962M",
    "000964V000966N000970V000971G000972H000981M000982K000984C000985H00098DC00098FH000991C000993H",
    "0009A9C0009AAH0009B1C0009B2H0009B3C0009B6H0009BAC0009BCM0009BDH0009BEK0009C1M0009C5C0009C7K",
    "0009C9C0009CBK0009CDM0009CEH0009CFC0009D7K0009D8C0009DCH0009DEC0009DFH0009E2M0009E4C0009E6N",
    "0009F0H0009F2X0009F4P0009FAa0009FBX0009FCH0009FDV0009FEM0009FFC000A01M000A03K000A04C000A05H",
    "000A0BC000A0FH000A11C000A13H000A29C000A2AH000A31C000A32H000A34C000A35H000A37C000A38H000A3AC",
    "000A3CM000A3DC000A3EK000A41M000A43C000A47M000A49C000A4BM000A4EC000A51M000A52C000A59H000A5DC",
    "000A5EH000A5FC000A66N000A70M000A72H000A75M000A76V000A77C000A81M000A83K000A84C000A85H000A8EC",
    "000A8FH000A92C000A93H000AA9C000AAAH000AB1C000AB2H000AB4C000AB5H000ABAC000ABCM000ABDH000ABEK",
    "000AC1M000AC6C000AC7M000AC9K000ACAC000ACBK000ACDM000ACEC000AD0H000AD1C000AE0H000AE2M000AE4C",
    "000AE6N000AF0V000AF1X000AF2C000AF9H000AFAM000B00C000B01M000B02K000B04C000B05H000B0DC000B0FH",
    "000B11C000B13H000B29C000B2AH000B31C000B32H000B34C000B35H000B3AC000B3CM000B3DH000B3EK000B3FM",
    "000B40K000B41M000B45C000B47K000B49C000B4BK000B4DM000B4EC000B55M000B57K000B58C000B5CH000B5EC",
    "000B5FH000B62M000B64C000B66N000B70a000B71H000B72P000B78C000B82M000B83H000B84C000B85H000B8BC",
    "000B8EH000B91C000B92H000B96C000B99H000B9BC000B9CH000B9DC000B9EH000BA0C000BA3H000BA5C000BA8H",
    "000BABC000BAEH000BBAC000BBEK000BC0M000BC1K000BC3C000BC6K000BC9C000BCAK000BCDM000BCEC000BD0H",
    "000BD1C000BD7K000BD8C000BE6N000BF0P000BF3a000BF9X000BFAa000BFBC000C00M000C01K000C04M000C05H",
    "000C0DC000C0EH000C11C000C12H000C29C000C2AH000C3AC000C3CM000C3DH000C3EM000C41K000C45C000C46M",
    "000C49C000C4AM000C4EC000C55M000C57C000C58H000C5BC000C5DH000C5EC000C60H000C62M000C64C000C66N",
    "000C70C000C77V000C78P000C7Fa000C80H000C81M000C82K000C84V000C85H000C8DC000C8EH000C91C000C92H",
    "000CA9C000CAAH000CB4C000CB5H000CBAC000CBCM000CBDH000CBEK000CBFM000CC0K000CC5C000CC6M000CC7K",
    "000CC9C000CCAK000CCCM000CCEC000CD5K000CD7C000CDDH000CDFC000CE0H000CE2M000CE4C000CE6N000CF0C",
    "000CF1H000CF3K000CF4C000D00M000D02K000D04H000D0DC000D0EH000D11C000D12H000D3BM000D3DH000D3EK",
    "000D41M000D45C000D46K000D49C000D4AK000D4DM000D4EH000D4Fa000D50C000D54H000D57K000D58P000D5FH",
    "000D62M000D64C000D66N000D70P000D79a000D7AH000D80C000D81M000D82K000D84C000D85H000D97C000D9AH",
    "000DB2C000DB3H000DBCC000DBDH000DBEC000DC0H000DC7C000DCAM000DCBC000DCFK000DD2M000DD5C000DD6M",
    "000DD7C000DD8K000DE0C000DE6N000DF0C000DF2K000DF4V000DF5C000E01H000E31M000E32H000E34M000E3BC",
    "000E3FX000E40H000E46G000E47M000E4FV000E50N000E5AV000E5CC000E81H000E83C000E84H000E85C000E86H",
    "000E8BC000E8CH000EA4C000EA5H000EA6C000EA7H000EB1M000EB2H000EB4M000EBDH000EBEC000EC0H000EC5C",
    "000EC6G000EC7C000EC8M000ECFC000ED0N000EDAC000EDCH000EE0C000F00H000F01a000F04V000F13a000F14V",
    "000F15a000F18M000F1Aa000F20N000F2AP000F34a000F35M000F36a000F37M000F38a000F39M000F3AW000F3BS",
    "000F3CW000F3DS000F3EK000F40H000F48C000F49H000F6DC000F71M000F7FK000F80M000F85V000F86M000F88H",
    "000F8DM000F98C000F99M000FBDC000FBEa000FC6M000FC7a000FCDC000FCEa000FD0V000FD5a000FD9V000FDBC",
    "001000H00102BK00102DM001031K001032M001038K001039M00103BK00103DM00103FH001040N00104AV001050H",
    "001056K001058M00105AH00105EM001061H001062K001065H001067K00106EH001071M001075H001082M001083K",
    "001085M001087K00108DM00108EH00108FK001090N00109AK00109DM00109Ea0010A0J0010C6C0010C7J0010C8C",
    "0010CDJ0010CEC0010D0F0010FBV0010FCG0010FDF001100H001249C00124AH00124EC001250H001257C001258H",
    "001259C00125AH00125EC001260H001289C00128AH00128EC001290H0012B1C0012B2H0012B6C0012B8H0012BFC",
    "0012C0H0012C1C0012C2H0012C6C0012C8H0012D7C0012D8H001311C001312H001316C001318H00135BC00135DM",
    "001360V001369P00137DC001380H001390a00139AC0013A0J0013F6C0013F8F0013FEC001400R001401H00166Da",
    "00166EV00166FH001680d001681H00169BW00169CS00169DC0016A0H0016EBV0016EEO0016F1H0016F9C001700H",
    "001712M001715K001716C00171FH001732M001734K001735V001737C001740H001752M001754C001760H00176DC",
    "00176EH001771C001772M001774C001780H0017B4M0017B6K0017B7M0017BEK0017C6M0017C7K0017C9M0017D4V",
    "0017D7G0017D8V0017DBX0017DCH0017DDM0017DEC0017E0N0017EAC0017F0P0017FAC001800V001806R001807V",
    "00180BM00180EB00180FM001810N00181AC001820H001843G001844H001879C001880H001885M001887H0018A9M",
    "0018AAH0018ABC0018B0H0018F6C001900H00191FC001920M001923K001927M001929K00192CC001930K001932M",
    "001933K001939M00193CC001940a001941C001944V001946N001950H00196EC001970H001975C001980H0019ACC",
    "0019B0H0019CAC0019D0N0019DAP0019DBC0019DEa001A00H001A17M001A19K001A1BM001A1CC001A1EV001A20H",
    "001A55K001A56M001A57K001A58M001A5FC001A60M001A61K001A62M001A63K001A65M001A6DK001A73M001A7DC",
    "001A7FM001A80N001A8AC001A90N001A9AC001AA0V001AA7G001AA8V001AAEC001AB0M001ABEL001ABFM001ACFC",
    "001B00M001B04K001B05H001B34M001B35K001B36M001B3BK001B3CM001B3DK001B42M001B43K001B45H001B4DC",
    "001B50N001B5AV001B61a001B6BM001B74a001B7DV001B7FC001B80M001B82K001B83H001BA1K001BA2M001BA6K",
    "001BA8M001BAAK001BABM001BAEH001BB0N001BBAH001BE6M001BE7K001BE8M001BEAK001BEDM001BEEK001BEFM",
    "001BF2K001BF4C001BFCV001C00H001C24K001C2CM001C34K001C36M001C38C001C3BV001C40N001C4AC001C4DH",
    "001C50N001C5AH001C78G001C7EV001C80F001C89C001C90J001CBBC001CBDJ001CC0V001CC8C001CD0M001CD3V",
    "001CD4M001CE1K001CE2M001CE9H001CEDM001CEEH001CF4M001CF5H001CF7K001CF8M001CFAH001CFBC001D00F",
    "001D2CG001D6BF001D78G001D79F001D9BG001DC0M001E00J001E01F001E02J001E03F001E04J001E05F001E06J",
    "001E07F001E08J001E09F001E0AJ001E0BF001E0CJ001E0DF001E0EJ001E0FF001E10J001E11F001E12J001E13F",
    "001E14J001E15F001E16J001E17F001E18J001E19F001E1AJ001E1BF001E1CJ001E1DF001E1EJ001E1FF001E20J",
    "001E21F001E22J001E23F001E24J001E25F001E26J001E27F001E28J001E29F001E2AJ001E2BF001E2CJ001E2DF",
    "001E2EJ001E2FF001E30J001E31F001E32J001E33F001E34J001E35F001E36J001E37F001E38J001E39F001E3AJ",
    "001E3BF001E3CJ001E3DF001E3EJ001E3FF001E40J001E41F001E42J001E43F001E44J001E45F001E46J001E47F",
    "001E48J001E49F001E4AJ001E4BF001E4CJ001E4DF001E4EJ001E4FF001E50J001E51F001E52J001E53F001E54J",
    "001E55F001E56J001E57F001E58J001E59F001E5AJ001E5BF001E5CJ001E5DF001E5EJ001E5FF001E60J001E61F",
    "001E62J001E63F001E64J001E65F001E66J001E67F001E68J001E69F001E6AJ001E6BF001E6CJ001E6DF001E6EJ",
    "001E6FF001E70J001E71F001E72J001E73F001E74J001E75F001E76J001E77F001E78J001E79F001E7AJ001E7BF",
    "001E7CJ001E7DF001E7EJ001E7FF001E80J001E81F001E82J001E83F001E84J001E85F001E86J001E87F001E88J",
    "001E89F001E8AJ001E8BF001E8CJ001E8DF001E8EJ001E8FF001E90J001E91F001E92J001E93F001E94J001E95F",
    "001E9EJ001E9FF001EA0J001EA1F001EA2J001EA3F001EA4J001EA5F001EA6J001EA7F001EA8J001EA9F001EAAJ",
    "001EABF001EACJ001EADF001EAEJ001EAFF001EB0J001EB1F001EB2J001EB3F001EB4J001EB5F001EB6J001EB7F",
    "001EB8J001EB9F001EBAJ001EBBF001EBCJ001EBDF001EBEJ001EBFF001EC0J001EC1F001EC2J001EC3F001EC4J",
    "001EC5F001EC6J001EC7F001EC8J001EC9F001ECAJ001ECBF001ECCJ001ECDF001ECEJ001ECFF001ED0J001ED1F",
    "001ED2J001ED3F001ED4J001ED5F001ED6J001ED7F001ED8J001ED9F001EDAJ001EDBF001EDCJ001EDDF001EDEJ",
    "001EDFF001EE0J001EE1F001EE2J001EE3F001EE4J001EE5F001EE6J001EE7F001EE8J001EE9F001EEAJ001EEBF",
    "001EECJ001EEDF001EEEJ001EEFF001EF0J001EF1F001EF2J001EF3F001EF4J001EF5F001EF6J001EF7F001EF8J",
    "001EF9F001EFAJ001EFBF001EFCJ001EFDF001EFEJ001EFFF001F08J001F10F001F16C001F18J001F1EC001F20F",
    "001F28J001F30F001F38J001F40F001F46C001F48J001F4EC001F50F001F58C001F59J001F5AC001F5BJ001F5CC",
    "001F5DJ001F5EC001F5FJ001F60F001F68J001F70F001F7EC001F80F001F88I001F90F001F98I001FA0F001FA8I",
    "001FB0F001FB5C001FB6F001FB8J001FBCI001FBDY001FBEF001FBFY001FC2F001FC5C001FC6F001FC8J001FCCI",
    "001FCDY001FD0F001FD4C001FD6F001FD8J001FDCC001FDDY001FE0F001FE8J001FEDY001FF0C001FF2F001FF5C",
    "001FF6F001FF8J001FFCI001FFDY001FFFC002000d00200BB002010R002016V002018U002019T00201AW00201BU",
    "00201DT00201EW00201FU002020V002028b002029c00202AB00202Fd002030V002039U00203AT00203BV00203FQ",
    "002041V002044Z002045W002046S002047V002052Z002053V002054Q002055V00205Fd002060B002065C002066B",
    "002070P002071G002072C002074P00207AZ00207DW00207ES00207FG002080P00208AZ00208DW00208ES00208FC",
    "002090G00209DC0020A0X0020C1C0020D0M0020DDL0020E1M0020E2L0020E5M0020F1C002100a002102J002103a",
    "002107J002108a00210AF00210BJ00210EF002110J002113F002114a002115J002116a002118Z002119J00211Ea",
    "002124J002125a002126J002127a002128J002129a00212AJ00212Ea00212FF002130J002134F002135H002139F",
    "00213Aa00213CF00213EJ002140Z002145J002146F00214Aa00214BZ00214Ca00214EF00214Fa002150P002160O",
    "002183J002184F002185O002189P00218Aa00218CC002190Z002195a00219AZ00219Ca0021A0Z0021A1a0021A3Z",
    "0021A4a0021A6Z0021A7a0021AEZ0021AFa0021CEZ0021D0a0021D2Z0021D3a0021D4Z0021D5a0021F4Z002300a",
    "002308W002309S00230AW00230BS00230Ca002320Z002322a002329W00232AS00232Ba00237CZ00237Da00239BZ",
    "0023B4a0023DCZ0023E2a002427C002440a00244BC002460P00249Ca0024EAP002500a0025B7Z0025B8a0025C1Z",
    "0025C2a0025F8Z002600a00266FZ002670a002768W002769S00276AW00276BS00276CW00276DS00276EW00276FS",
    "002770W002771S002772W002773S002774W002775S002776P002794a0027C0Z0027C5W0027C6S0027C7Z0027E6W",
    "0027E7S0027E8W0027E9S0027EAW0027EBS0027ECW0027EDS0027EEW0027EFS0027F0Z002800a002900Z002983W",
    "002984S002985W002986S002987W002988S002989W00298AS00298BW00298CS00298DW00298ES00298FW002990S",
    "002991W002992S002993W002994S002995W002996S002997W002998S002999Z0029D8W0029D9S0029DAW0029DBS",
    "0029DCZ0029FCW0029FDS0029FEZ002B00a002B30Z002B45a002B47Z002B4Da002B74C002B76a002B96C002B97a",
    "002C00J002C30F002C60J002C61F002C62J002C65F002C67J002C68F002C69J002C6AF002C6BJ002C6CF002C6DJ",
    "002C71F002C72J002C73F002C75J002C76F002C7CG002C7EJ002C81F002C82J002C83F002C84J002C85F002C86J",
    "002C87F002C88J002C89F002C8AJ002C8BF002C8CJ002C8DF002C8EJ002C8FF002C90J002C91F002C92J002C93F",
    "002C94J002C95F002C96J002C97F002C98J002C99F002C9AJ002C9BF002C9CJ002C9DF002C9EJ002C9FF002CA0J",
    "002CA1F002CA2J002CA3F002CA4J002CA5F002CA6J002CA7F002CA8J002CA9F002CAAJ002CABF002CACJ002CADF",
    "002CAEJ002CAFF002CB0J002CB1F002CB2J002CB3F002CB4J002CB5F002CB6J002CB7F002CB8J002CB9F002CBAJ",
    "002CBBF002CBCJ002CBDF002CBEJ002CBFF002CC0J002CC1F002CC2J002CC3F002CC4J002CC5F002CC6J002CC7F",
    "002CC8J002CC9F002CCAJ002CCBF002CCCJ002CCDF002CCEJ002CCFF002CD0J002CD1F002CD2J002CD3F002CD4J",
    "002CD5F002CD6J002CD7F002CD8J002CD9F002CDAJ002CDBF002CDCJ002CDDF002CDEJ002CDFF002CE0J002CE1F",
    "002CE2J002CE3F002CE5a002CEBJ002CECF002CEDJ002CEEF002CEFM002CF2J002CF3F002CF4C002CF9V002CFDP",
    "002CFEV002D00F002D26C002D27F002D28C002D2DF002D2EC002D30H002D68C002D6FG002D70V002D71C002D7FM",
    "002D80H002D97C002DA0H002DA7C002DA8H002DAFC002DB0H002DB7C002DB8H002DBFC002DC0H002DC7C002DC8H",
    "002DCFC002DD0H002DD7C002DD8H002DDFC002DE0M002E00V002E02U002E03T002E04U002E05T002E06V002E09U",
    "002E0AT002E0BV002E0CU002E0DT002E0EV002E17R002E18V002E1AR002E1BV002E1CU002E1DT002E1EV002E20U",
    "002E21T002E22W002E23S002E24W002E25S002E26W002E27S002E28W002E29S002E2AV002E2FG002E30V002E3AR",
    "002E3CV002E40R002E41V002E42W002E43V002E50a002E52V002E55W002E56S002E57W002E58S002E59W002E5AS",
    "002E5BW002E5CS002E5DR002E5EC002E80a002E9AC002E9Ba002EF4C002F00a002FD6C002FF0a002FFCC003000d",
    "003001V003004a003005G003006H003007O003008W003009S00300AW00300BS00300CW00300DS00300EW00300FS",
    "003010W003011S003012a003014W003015S003016W003017S003018W003019S00301AW00301BS00301CR00301DW",
    "00301ES003020a003021O00302AM00302EK003030R003031G003036a003038O00303BG00303CH00303DV00303Ea",
    "003040C003041H003097C003099M00309BY00309DG00309FH0030A0R0030A1H0030FBV0030FCG0030FFH003100C",
    "003105H003130C003131H00318FC003190a003192P003196a0031A0H0031C0a0031E4C0031F0H003200a00321FC",
    "003220P00322Aa003248P003250a003251P003260a003280P00328Aa0032B1P0032C0a003400H004DC0a004E00H",
    "00A015G00A016H00A48DC00A490a00A4C7C00A4D0H00A4F8G00A4FEV00A500H00A60CG00A60DV00A610H00A620N",
    "00A62AH00A62CC00A640J00A641F00A642J00A643F00A644J00A645F00A646J00A647F00A648J00A649F00A64AJ",
    "00A64BF00A64CJ00A64DF00A64EJ00A64FF00A650J00A651F00A652J00A653F00A654J00A655F00A656J00A657F",
    "00A658J00A659F00A65AJ00A65BF00A65CJ00A65DF00A65EJ00A65FF00A660J00A661F00A662J00A663F00A664J",
    "00A665F00A666J00A667F00A668J00A669F00A66AJ00A66BF00A66CJ00A66DF00A66EH00A66FM00A670L00A673V",
    "00A674M00A67EV00A67FG00A680J00A681F00A682J00A683F00A684J00A685F00A686J00A687F00A688J00A689F",
    "00A68AJ00A68BF00A68CJ00A68DF00A68EJ00A68FF00A690J00A691F00A692J00A693F00A694J00A695F00A696J",
    "00A697F00A698J00A699F00A69AJ00A69BF00A69CG00A69EM00A6A0H00A6E6O00A6F0M00A6F2V00A6F8C00A700Y",
    "00A717G00A720Y00A722J00A723F00A724J00A725F00A726J00A727F00A728J00A729F00A72AJ00A72BF00A72CJ",
    "00A72DF00A72EJ00A72FF00A732J00A733F00A734J00A735F00A736J00A737F00A738J00A739F00A73AJ00A73BF",
    "00A73CJ00A73DF00A73EJ00A73FF00A740J00A741F00A742J00A743F00A744J00A745F00A746J00A747F00A748J",
    "00A749F00A74AJ00A74BF00A74CJ00A74DF00A74EJ00A74FF00A750J00A751F00A752J00A753F00A754J00A755F",
    "00A756J00A757F00A758J00A759F00A75AJ00A75BF00A75CJ00A75DF00A75EJ00A75FF00A760J00A761F00A762J",
    "00A763F00A764J00A765F00A766J00A767F00A768J00A769F00A76AJ00A76BF00A76CJ00A76DF00A76EJ00A76FF",
    "00A770G00A771F00A779J00A77AF00A77BJ00A77CF00A77DJ00A77FF00A780J00A781F00A782J00A783F00A784J",
    "00A785F00A786J00A787F00A788G00A789Y00A78BJ00A78CF00A78DJ00A78EF00A78FH00A790J00A791F00A792J",
    "00A793F00A796J00A797F00A798J00A799F00A79AJ00A79BF00A79CJ00A79DF00A79EJ00A79FF00A7A0J00A7A1F",
    "00A7A2J00A7A3F00A7A4J00A7A5F00A7A6J00A7A7F00A7A8J00A7A9F00A7AAJ00A7AFF00A7B0J00A7B5F00A7B6J",
    "00A7B7F00A7B8J00A7B9F00A7BAJ00A7BBF00A7BCJ00A7BDF00A7BEJ00A7BFF00A7C0J00A7C1F00A7C2J00A7C3F",
    "00A7C4J00A7C8F00A7C9J00A7CAF00A7CBC00A7D0J00A7D1F00A7D2C00A7D3F00A7D4C00A7D5F00A7D6J00A7D7F",
    "00A7D8J00A7D9F00A7DAC00A7F2G00A7F5J00A7F6F00A7F7H00A7F8G00A7FAF00A7FBH00A802M00A803H00A806M",
    "00A807H00A80BM00A80CH00A823K00A825M00A827K00A828a00A82CM00A82DC00A830P00A836a00A838X00A839a",
    "00A83AC00A840H00A874V00A878C00A880K00A882H00A8B4K00A8C4M00A8C6C00A8CEV00A8D0N00A8DAC00A8E0M",
    "00A8F2H00A8F8V00A8FBH00A8FCV00A8FDH00A8FFM00A900N00A90AH00A926M00A92EV00A930H00A947M00A952K",
    "00A954C00A95FV00A960H00A97DC00A980M00A983K00A984H00A9B3M00A9B4K00A9B6M00A9BAK00A9BCM00A9BEK",
    "00A9C1V00A9CEC00A9CFG00A9D0N00A9DAC00A9DEV00A9E0H00A9E5M00A9E6G00A9E7H00A9F0N00A9FAH00A9FFC",
    "00AA00H00AA29M00AA2FK00AA31M00AA33K00AA35M00AA37C00AA40H00AA43M00AA44H00AA4CM00AA4DK00AA4EC",
    "00AA50N00AA5AC00AA5CV00AA60H00AA70G00AA71H00AA77a00AA7AH00AA7BK00AA7CM00AA7DK00AA7EH00AAB0M",
    "00AAB1H00AAB2M00AAB5H00AAB7M00AAB9H00AABEM00AAC0H00AAC1M00AAC2H00AAC3C00AADBH00AADDG00AADEV",
    "00AAE0H00AAEBK00AAECM00AAEEK00AAF0V00AAF2H00AAF3G00AAF5K00AAF6M00AAF7C00AB01H00AB07C00AB09H",
    "00AB0FC00AB11H00AB17C00AB20H00AB27C00AB28H00AB2FC00AB30F00AB5BY00AB5CG00AB60F00AB69G00AB6AY",
    "00AB6CC00AB70F00ABC0H00ABE3K00ABE5M00ABE6K00ABE8M00ABE9K00ABEBV00ABECK00ABEDM00ABEEC00ABF0N",
    "00ABFAC00AC00H00D7A4C00D7B0H00D7C7C00D7CBH00D7FCC00D800E00E000D00F900H00FA6EC00FA70H00FADAC",
    "00FB00F00FB07C00FB13F00FB18C00FB1DH00FB1EM00FB1FH00FB29Z00FB2AH00FB37C00FB38H00FB3DC00FB3EH",
    "00FB3FC00FB40H00FB42C00FB43H00FB45C00FB46H00FBB2Y00FBC3C00FBD3H00FD3ES00FD3FW00FD40a00FD50H",
    "00FD90C00FD92H00FDC8C00FDCFa00FDD0C00FDF0H00FDFCX00FDFDa00FE00M00FE10V00FE17W00FE18S00FE19V",
    "00FE1AC00FE20M00FE30V00FE31R00FE33Q00FE35W00FE36S00FE37W00FE38S00FE39W00FE3AS00FE3BW00FE3CS",
    "00FE3DW00FE3ES00FE3FW00FE40S00FE41W00FE42S00FE43W00FE44S00FE45V00FE47W00FE48S00FE49V00FE4DQ",
    "00FE50V00FE53C00FE54V00FE58R00FE59W00FE5AS00FE5BW00FE5CS00FE5DW00FE5ES00FE5FV00FE62Z00FE63R",
    "00FE64Z00FE67C00FE68V00FE69X00FE6AV00FE6CC00FE70H00FE75C00FE76H00FEFDC00FEFFB00FF00C00FF01V",
    "00FF04X00FF05V00FF08W00FF09S00FF0AV00FF0BZ00FF0CV00FF0DR00FF0EV00FF10N00FF1AV00FF1CZ00FF1FV",
    "00FF21J00FF3BW00FF3CV00FF3DS00FF3EY00FF3FQ00FF40Y00FF41F00FF5BW00FF5CZ00FF5DS00FF5EZ00FF5FW",
    "00FF60S00FF61V00FF62W00FF63S00FF64V00FF66H00FF70G00FF71H00FF9EG00FFA0H00FFBFC00FFC2H00FFC8C",
    "00FFCAH00FFD0C00FFD2H00FFD8C00FFDAH00FFDDC00FFE0X00FFE2Z00FFE3Y00FFE4a00FFE5X00FFE7C00FFE8a",
    "00FFE9Z00FFEDa00FFEFC00FFF9B00FFFCa00FFFEC010000H01000CC01000DH010027C010028H01003BC01003CH",
    "01003EC01003FH01004EC010050H01005EC010080H0100FBC010100V010103C010107P010134C010137a010140O",
    "010175P010179a01018AP01018Ca01018FC010190a01019DC0101A0a0101A1C0101D0a0101FDM0101FEC010280H",
    "01029DC0102A0H0102D1C0102E0M0102E1P0102FCC010300H010320P010324C01032DH010341O010342H01034AO",
    "01034BC010350H010376M01037BC010380H01039EC01039FV0103A0H0103C4C0103C8H0103D0V0103D1O0103D6C",
    "010400J010428F010450H01049EC0104A0N0104AAC0104B0J0104D4C0104D8F0104FCC010500H010528C010530H",
    "010564C01056FV010570J01057BC01057CJ01058BC01058CJ010593C010594J010596C010597F0105A2C0105A3F",
    "0105B2C0105B3F0105BAC0105BBF0105BDC010600H010737C010740H010756C010760H010768C010780G010786C",
    "010787G0107B1C0107B2G0107BBC010800H010806C010808H010809C01080AH010836C010837H010839C01083CH",
    "01083DC01083FH010856C010857V010858P010860H010877a010879P010880H01089FC0108A7P0108B0C0108E0H",
    "0108F3C0108F4H0108F6C0108FBP010900H010916P01091CC01091FV010920H01093AC01093FV010940C010980H",
    "0109B8C0109BCP0109BEH0109C0P0109D0C0109D2P010A00H010A01M010A04C010A05M010A07C010A0CM010A10H",
    "010A14C010A15H010A18C010A19H010A36C010A38M010A3BC010A3FM010A40P010A49C010A50V010A59C010A60H",
    "010A7DP010A7FV010A80H010A9DP010AA0C010AC0H010AC8a010AC9H010AE5M010AE7C010AEBP010AF0V010AF7C",
    "010B00H010B36C010B39V010B40H010B56C010B58P010B60H010B73C010B78P010B80H010B92C010B99V010B9DC",
    "010BA9P010BB0C010C00H010C49C010C80J010CB3C010CC0F010CF3C010CFAP010D00H010D24M010D28C010D30N",
    "010D3AC010E60P010E7FC010E80H010EAAC010EABM010EADR010EAEC010EB0H010EB2C010EFDM010F00H010F1DP",
    "010F27H010F28C010F30H010F46M010F51P010F55V010F5AC010F70H010F82M010F86V010F8AC010FB0H010FC5P",
    "010FCCC010FE0H010FF7C011000K011001M011002K011003H011038M011047V01104EC011052P011066N011070M",
    "011071H011073M011075H011076C01107FM011082K011083H0110B0K0110B3M0110B7K0110B9M0110BBV0110BDB",
    "0110BEV0110C2M0110C3C0110CDB0110CEC0110D0H0110E9C0110F0N0110FAC011100M011103H011127M01112CK",
    "01112DM011135C011136N011140V011144H011145K011147H011148C011150H011173M011174V011176H011177C",
    "011180M011182K011183H0111B3K0111B6M0111BFK0111C1H0111C5V0111C9M0111CDV0111CEK0111CFM0111D0N",
    "0111DAH0111DBV0111DCH0111DDV0111E0C0111E1P0111F5C011200H011212C011213H01122CK01122FM011232K",
    "011234M011235K011236M011238V01123EM01123FH011241M011242C011280H011287C011288H011289C01128AH",
    "01128EC01128FH01129EC01129FH0112A9V0112AAC0112B0H0112DFM0112E0K0112E3M0112EBC0112F0N0112FAC",
    "011300M011302K011304C011305H01130DC01130FH011311C011313H011329C01132AH011331C011332H011334C",
    "011335H01133AC01133BM01133DH01133EK011340M011341K011345C011347K011349C01134BK01134EC011350H",
    "011351C011357K011358C01135DH011362K011364C011366M01136DC011370M011375C011400H011435K011438M",
    "011440K011442M011445K011446M011447H01144BV011450N01145AV01145CC01145DV01145EM01145FH011462C",
    "011480H0114B0K0114B3M0114B9K0114BAM0114BBK0114BFM0114C1K0114C2M0114C4H0114C6V0114C7H0114C8C",
    "0114D0N0114DAC011580H0115AFK0115B2M0115B6C0115B8K0115BCM0115BEK0115BFM0115C1V0115D8H0115DCM",
    "0115DEC011600H011630K011633M01163BK01163DM01163EK01163FM011641V011644H011645C011650N01165AC",
    "011660V01166DC011680H0116ABM0116ACK0116ADM0116AEK0116B0M0116B6K0116B7M0116B8H0116B9V0116BAC",
    "0116C0N0116CAC011700H01171BC01171DM011720K011722M011726K011727M01172CC011730N01173AP01173CV",
    "01173Fa011740H011747C011800H01182CK01182FM011838K011839M01183BV01183CC0118A0J0118C0F0118E0N",
    "0118EAP0118F3C0118FFH011907C011909H01190AC01190CH011914C011915H011917C011918H011930K011936C",
    "011937K011939C01193BM01193DK01193EM01193FH011940K011941H011942K011943M011944V011947C011950N",
    "01195AC0119A0H0119A8C0119AAH0119D1K0119D4M0119D8C0119DAM0119DCK0119E0M0119E1H0119E2V0119E3H",
    "0119E4K0119E5C011A00H011A01M011A0BH011A33M011A39K011A3AH011A3BM011A3FV011A47M011A48C011A50H",
    "011A51M011A57K011A59M011A5CH011A8AM011A97K011A98M011A9AV011A9DH011A9EV011AA3C011AB0H011AF9C",
    "011B00V011B0AC011C00H011C09C011C0AH011C2FK011C30M011C37C011C38M011C3EK011C3FM011C40H011C41V",
    "011C46C011C50N011C5AP011C6DC011C70V011C72H011C90C011C92M011CA8C011CA9K011CAAM011CB1K011CB2M",
    "011CB4K011CB5M011CB7C011D00H011D07C011D08H011D0AC011D0BH011D31M011D37C011D3AM011D3BC011D3CM",
    "011D3EC011D3FM011D46H011D47M011D48C011D50N011D5AC011D60H011D66C011D67H011D69C011D6AH011D8AK",
    "011D8FC011D90M011D92C011D93K011D95M011D96K011D97M011D98H011D99C011DA0N011DAAC011EE0H011EF3M",
    "011EF5K011EF7V011EF9C011F00M011F02H011F03K011F04H011F11C011F12H011F34K011F36M011F3BC011F3EK",
    "011F40M011F41K011F42M011F43V011F50N011F5AC011FB0H011FB1C011FC0P011FD5a011FDDX011FE1a011FF2C",
    "011FFFV012000H01239AC012400O01246FC012470V012475C012480H012544C012F90H012FF1V012FF3C013000H",
    "013430B013440M013441H013447M013456C014400H014647C016800H016A39C016A40H016A5FC016A60N016A6AC",
    "016A6EV016A70H016ABFC016AC0N016ACAC016AD0H016AEEC016AF0M016AF5V016AF6C016B00H016B30M016B37V",
    "016B3Ca016B40G016B44V016B45a016B46C016B50N016B5AC016B5BP016B62C016B63H016B78C016B7DH016B90C",
    "016E40J016E60F016E80P016E97V016E9BC016F00H016F4BC016F4FM016F50H016F51K016F88C016F8FM016F93G",
    "016FA0C016FE0G016FE2V016FE3G016FE4M016FE5C016FF0K016FF2C017000H0187F8C018800H018CD6C018D00H",
    "018D09C01AFF0G01AFF4C01AFF5G01AFFCC01AFFDG01AFFFC01B000H01B123C01B132H01B133C01B150H01B153C",
    "01B155H01B156C01B164H01B168C01B170H01B2FCC01BC00H01BC6BC01BC70H01BC7DC01BC80H01BC89C01BC90H",
    "01BC9AC01BC9Ca01BC9DM01BC9FV01BCA0B01BCA4C01CF00M01CF2EC01CF30M01CF47C01CF50a01CFC4C01D000a",
    "01D0F6C01D100a01D127C01D129a01D165K01D167M01D16Aa01D16DK01D173B01D17BM01D183a01D185M01D18Ca",
    "01D1AAM01D1AEa01D1EBC01D200a01D242M01D245a01D246C01D2C0P01D2D4C01D2E0P01D2F4C01D300a01D357C",
    "01D360P01D379C01D400J01D41AF01D434J01D44EF01D455C01D456F01D468J01D482F01D49CJ01D49DC01D49EJ",
    "01D4A0C01D4A2J01D4A3C01D4A5J01D4A7C01D4A9J01D4ADC01D4AEJ01D4B6F01D4BAC01D4BBF01D4BCC01D4BDF",
    "01D4C4C01D4C5F01D4D0J01D4EAF01D504J01D506C01D507J01D50BC01D50DJ01D515C01D516J01D51DC01D51EF",
    "01D538J01D53AC01D53BJ01D53FC01D540J01D545C01D546J01D547C01D54AJ01D551C01D552F01D56CJ01D586F",
    "01D5A0J01D5BAF01D5D4J01D5EEF01D608J01D622F01D63CJ01D656F01D670J01D68AF01D6A6C01D6A8J01D6C1Z",
    "01D6C2F01D6DBZ01D6DCF01D6E2J01D6FBZ01D6FCF01D715Z01D716F01D71CJ01D735Z01D736F01D74FZ01D750F",
    "01D756J01D76FZ01D770F01D789Z01D78AF01D790J01D7A9Z01D7AAF01D7C3Z01D7C4F01D7CAJ01D7CBF01D7CCC",
    "01D7CEN01D800a01DA00M01DA37a01DA3BM01DA6Da01DA75M01DA76a01DA84M01DA85a01DA87V01DA8CC01DA9BM",
    "01DAA0C01DAA1M01DAB0C01DF00F01DF0AH01DF0BF01DF1FC01DF25F01DF2BC01E000M01E007C01E008M01E019C",
    "01E01BM01E022C01E023M01E025C01E026M01E02BC01E030G01E06EC01E08FM01E090C01E100H01E12DC01E130M",
    "01E137G01E13EC01E140N01E14AC01E14EH01E14Fa01E150C01E290H01E2AEM01E2AFC01E2C0H01E2ECM01E2F0N",
    "01E2FAC01E2FFX01E300C01E4D0H01E4EBG01E4ECM01E4F0N01E4FAC01E7E0H01E7E7C01E7E8H01E7ECC01E7EDH",
    "01E7EFC01E7F0H01E7FFC01E800H01E8C5C01E8C7P01E8D0M01E8D7C01E900J01E922F01E944M01E94BG01E94CC",
    "01E950N01E95AC01E95EV01E960C01EC71P01ECACa01ECADP01ECB0X01ECB1P01ECB5C01ED01P01ED2Ea01ED2FP",
    "01ED3EC01EE00H01EE04C01EE05H01EE20C01EE21H01EE23C01EE24H01EE25C01EE27H01EE28C01EE29H01EE33C",
    "01EE34H01EE38C01EE39H01EE3AC01EE3BH01EE3CC01EE42H01EE43C01EE47H01EE48C01EE49H01EE4AC01EE4BH",
    "01EE4CC01EE4DH01EE50C01EE51H01EE53C01EE54H01EE55C01EE57H01EE58C01EE59H01EE5AC01EE5BH01EE5CC",
    "01EE5DH01EE5EC01EE5FH01EE60C01EE61H01EE63C01EE64H01EE65C01EE67H01EE6BC01EE6CH01EE73C01EE74H",
    "01EE78C01EE79H01EE7DC01EE7EH01EE7FC01EE80H01EE8AC01EE8BH01EE9CC01EEA1H01EEA4C01EEA5H01EEAAC",
    "01EEABH01EEBCC01EEF0Z01EEF2C01F000a01F02CC01F030a01F094C01F0A0a01F0AFC01F0B1a01F0C0C01F0C1a",
    "01F0D0C01F0D1a01F0F6C01F100P01F10Da01F1AEC01F1E6a01F203C01F210a01F23CC01F240a01F249C01F250a",
    "01F252C01F260a01F266C01F300a01F3FBY01F400a01F6D8C01F6DCa01F6EDC01F6F0a01F6FDC01F700a01F777C",
    "01F77Ba01F7DAC01F7E0a01F7ECC01F7F0a01F7F1C01F800a01F80CC01F810a01F848C01F850a01F85AC01F860a",
    "01F888C01F890a01F8AEC01F8B0a01F8B2C01F900a01FA54C01FA60a01FA6EC01FA70a01FA7DC01FA80a01FA89C",
    "01FA90a01FABEC01FABFa01FAC6C01FACEa01FADCC01FAE0a01FAE9C01FAF0a01FAF9C01FB00a01FB93C01FB94a",
    "01FBCBC01FBF0N01FBFAC020000H02A6E0C02A700H02B73AC02B740H02B81EC02B820H02CEA2C02CEB0H02EBE1C",
    "02F800H02FA1EC030000H03134BC031350H0323B0C0E0001B0E0002C0E0020B0E0080C0E0100M0E01F0C0F0000D",
    "0FFFFEC100000D10FFFEC110000C"]

/-- 表の文字列を、区間の先頭とカテゴリの組の列に戻す。 -/
def decodeCategoryRuns : List Char → List (Nat × Category)
  | a :: b :: c :: d :: e :: f :: k :: rest =>
    (hexDigitsValue [a, b, c, d, e, f], Category.ofCode k) :: decodeCategoryRuns rest
  | _ => []

/-- 区間の先頭とカテゴリの組の表。先頭は昇順で、最初の先頭は 0 である。 -/
def categoryRuns : Array (Nat × Category) :=
  (decodeCategoryRuns categoryText.toList).toArray

/-- 先頭が `c` 以下である最後の区間の添字を `[lo, hi)` の中で探す。`lo` の区間の先頭は
`c` 以下であるとする。 -/
def lastRunAtMost (runs : Array (Nat × Category)) (c : Nat) (lo hi : Nat) : Nat :=
  if _h : lo + 1 < hi then
    let mid := (lo + hi) / 2
    match runs[mid]? with
    | some (start, _) => if start ≤ c then lastRunAtMost runs c mid hi else lastRunAtMost runs c lo mid
    | none => lo
  else lo
termination_by hi - lo

/-- 文字の一般カテゴリ。 -/
def categoryOf (c : Char) : Category :=
  let runs := categoryRuns
  match runs[lastRunAtMost runs c.toNat 0 runs.size]? with
  | some (_, k) => k
  | none => .Cn

/-- 十進数字（`Nd`）か。 -/
def isDecimalDigit (c : Char) : Bool :=
  categoryOf c == .Nd

/-- 語の文字か：Alphabetic、結合文字（`M`）、十進数字、連結句読点、結合制御（U+200C、U+200D）。 -/
def isWordChar (c : Char) : Bool :=
  isAlphabetic c || c.toNat == 0x200C || c.toNat == 0x200D ||
    [Category.Mn, .Mc, .Me, .Nd, .Pc].contains (categoryOf c)

end Workflow.Text
