import Workflow.Text.Ranges

/-!
# 文字体系

code point を Unicode 15.0 の文字体系に分ける。正規表現の `\p{Greek}`（Script）と
`\p{scx=Greek}`（Script_Extensions）がこれを使う。

Script はどの文字にも一つだけ決まる。Script_Extensions は、いくつもの文字体系で使われる
文字（句読点や結合文字など）にはその全部を、ほかの文字には Script と同じ一つを与える。
どこにも割り当てられていない文字（Unknown）の集合は持たない。

表は文字体系ごとに、区間の先頭と末尾の code point を 16 進 6 桁ずつ続けて書いた文字列で
ある。区間は昇順で、重ならない。
-/

namespace Workflow.Text

/-- 文字体系：名前（緩くそろえた別名すべて）、Script の区間、Script_Extensions の区間。 -/
structure ScriptEntry where
  names : List String
  script : String
  extensions : String

/-- すべての文字体系（Unknown を除く）。 -/
def scriptEntries : List ScriptEntry := [
  { names := ["adlm", "adlam"]
    script := String.join [
      "01E90001E94B01E95001E95901E95E01E95F"]
    extensions := String.join [
      "00061F00061F00064000064001E90001E94B01E95001E95901E95E01E95F"] },
  { names := ["ahom"]
    script := String.join [
      "01170001171A01171D01172B011730011746"]
    extensions := String.join [
      "01170001171A01171D01172B011730011746"] },
  { names := ["hluw", "anatolianhieroglyphs"]
    script := String.join [
      "014400014646"]
    extensions := String.join [
      "014400014646"] },
  { names := ["arab", "arabic"]
    script := String.join [
      "00060000060400060600060B00060D00061A00061C00061E00062000063F00064100064A00065600066F0006710006DC",
      "0006DE0006FF00075000077F00087000088E0008900008910008980008E10008E30008FF00FB5000FBC200FBD300FD3D",
      "00FD4000FD8F00FD9200FDC700FDCF00FDCF00FDF000FDFF00FE7000FE7400FE7600FEFC010E60010E7E010EFD010EFF",
      "01EE0001EE0301EE0501EE1F01EE2101EE2201EE2401EE2401EE2701EE2701EE2901EE3201EE3401EE3701EE3901EE39",
      "01EE3B01EE3B01EE4201EE4201EE4701EE4701EE4901EE4901EE4B01EE4B01EE4D01EE4F01EE5101EE5201EE5401EE54",
      "01EE5701EE5701EE5901EE5901EE5B01EE5B01EE5D01EE5D01EE5F01EE5F01EE6101EE6201EE6401EE6401EE6701EE6A",
      "01EE6C01EE7201EE7401EE7701EE7901EE7C01EE7E01EE7E01EE8001EE8901EE8B01EE9B01EEA101EEA301EEA501EEA9",
      "01EEAB01EEBB01EEF001EEF1"]
    extensions := String.join [
      "0006000006040006060006DC0006DE0006FF00075000077F00087000088E0008900008910008980008E10008E30008FF",
      "00FB5000FBC200FBD300FD8F00FD9200FDC700FDCF00FDCF00FDF000FDFF00FE7000FE7400FE7600FEFC0102E00102FB",
      "010E60010E7E010EFD010EFF01EE0001EE0301EE0501EE1F01EE2101EE2201EE2401EE2401EE2701EE2701EE2901EE32",
      "01EE3401EE3701EE3901EE3901EE3B01EE3B01EE4201EE4201EE4701EE4701EE4901EE4901EE4B01EE4B01EE4D01EE4F",
      "01EE5101EE5201EE5401EE5401EE5701EE5701EE5901EE5901EE5B01EE5B01EE5D01EE5D01EE5F01EE5F01EE6101EE62",
      "01EE6401EE6401EE6701EE6A01EE6C01EE7201EE7401EE7701EE7901EE7C01EE7E01EE7E01EE8001EE8901EE8B01EE9B",
      "01EEA101EEA301EEA501EEA901EEAB01EEBB01EEF001EEF1"] },
  { names := ["armn", "armenian"]
    script := String.join [
      "00053100055600055900058A00058D00058F00FB1300FB17"]
    extensions := String.join [
      "00053100055600055900058A00058D00058F00FB1300FB17"] },
  { names := ["avst", "avestan"]
    script := String.join [
      "010B00010B35010B39010B3F"]
    extensions := String.join [
      "010B00010B35010B39010B3F"] },
  { names := ["bali", "balinese"]
    script := String.join [
      "001B00001B4C001B50001B7E"]
    extensions := String.join [
      "001B00001B4C001B50001B7E"] },
  { names := ["bamu", "bamum"]
    script := String.join [
      "00A6A000A6F7016800016A38"]
    extensions := String.join [
      "00A6A000A6F7016800016A38"] },
  { names := ["bass", "bassavah"]
    script := String.join [
      "016AD0016AED016AF0016AF5"]
    extensions := String.join [
      "016AD0016AED016AF0016AF5"] },
  { names := ["batk", "batak"]
    script := String.join [
      "001BC0001BF3001BFC001BFF"]
    extensions := String.join [
      "001BC0001BF3001BFC001BFF"] },
  { names := ["beng", "bengali"]
    script := String.join [
      "00098000098300098500098C00098F0009900009930009A80009AA0009B00009B20009B20009B60009B90009BC0009C4",
      "0009C70009C80009CB0009CE0009D70009D70009DC0009DD0009DF0009E30009E60009FE"]
    extensions := String.join [
      "00095100095200096400096500098000098300098500098C00098F0009900009930009A80009AA0009B00009B20009B2",
      "0009B60009B90009BC0009C40009C70009C80009CB0009CE0009D70009D70009DC0009DD0009DF0009E30009E60009FE",
      "001CD0001CD0001CD2001CD2001CD5001CD6001CD8001CD8001CE1001CE1001CEA001CEA001CED001CED001CF2001CF2",
      "001CF5001CF700A8F100A8F1"] },
  { names := ["bhks", "bhaiksuki"]
    script := String.join [
      "011C00011C08011C0A011C36011C38011C45011C50011C6C"]
    extensions := String.join [
      "011C00011C08011C0A011C36011C38011C45011C50011C6C"] },
  { names := ["bopo", "bopomofo"]
    script := String.join [
      "0002EA0002EB00310500312F0031A00031BF"]
    extensions := String.join [
      "0002EA0002EB00300100300300300800301100301300301F00302A00302D0030300030300030370030370030FB0030FB",
      "00310500312F0031A00031BF00FE4500FE4600FF6100FF65"] },
  { names := ["brah", "brahmi"]
    script := String.join [
      "01100001104D01105201107501107F01107F"]
    extensions := String.join [
      "01100001104D01105201107501107F01107F"] },
  { names := ["brai", "braille"]
    script := String.join [
      "0028000028FF"]
    extensions := String.join [
      "0028000028FF"] },
  { names := ["bugi", "buginese"]
    script := String.join [
      "001A00001A1B001A1E001A1F"]
    extensions := String.join [
      "001A00001A1B001A1E001A1F00A9CF00A9CF"] },
  { names := ["buhd", "buhid"]
    script := String.join [
      "001740001753"]
    extensions := String.join [
      "001735001736001740001753"] },
  { names := ["cans", "canadianaboriginal"]
    script := String.join [
      "00140000167F0018B00018F5011AB0011ABF"]
    extensions := String.join [
      "00140000167F0018B00018F5011AB0011ABF"] },
  { names := ["cari", "carian"]
    script := String.join [
      "0102A00102D0"]
    extensions := String.join [
      "0102A00102D0"] },
  { names := ["aghb", "caucasianalbanian"]
    script := String.join [
      "01053001056301056F01056F"]
    extensions := String.join [
      "01053001056301056F01056F"] },
  { names := ["cakm", "chakma"]
    script := String.join [
      "011100011134011136011147"]
    extensions := String.join [
      "0009E60009EF001040001049011100011134011136011147"] },
  { names := ["cham"]
    script := String.join [
      "00AA0000AA3600AA4000AA4D00AA5000AA5900AA5C00AA5F"]
    extensions := String.join [
      "00AA0000AA3600AA4000AA4D00AA5000AA5900AA5C00AA5F"] },
  { names := ["cher", "cherokee"]
    script := String.join [
      "0013A00013F50013F80013FD00AB7000ABBF"]
    extensions := String.join [
      "0013A00013F50013F80013FD00AB7000ABBF"] },
  { names := ["chrs", "chorasmian"]
    script := String.join [
      "010FB0010FCB"]
    extensions := String.join [
      "010FB0010FCB"] },
  { names := ["zyyy", "common"]
    script := String.join [
      "00000000004000005B00006000007B0000A90000AB0000B90000BB0000BF0000D70000D70000F70000F70002B90002DF",
      "0002E50002E90002EC0002FF00037400037400037E00037E00038500038500038700038700060500060500060C00060C",
      "00061B00061B00061F00061F0006400006400006DD0006DD0008E20008E2000964000965000E3F000E3F000FD5000FD8",
      "0010FB0010FB0016EB0016ED001735001736001802001803001805001805001CD3001CD3001CE1001CE1001CE9001CEC",
      "001CEE001CF3001CF5001CF7001CFA001CFA00200000200B00200E00206400206600207000207400207E00208000208E",
      "0020A00020C000210000212500212700212900212C00213100213300214D00214F00215F00218900218B002190002426",
      "00244000244A0024600027FF002900002B73002B76002B95002B97002BFF002E00002E5D002FF0002FFB003000003004",
      "00300600300600300800302000303000303700303C00303F00309B00309C0030A00030A00030FB0030FC00319000319F",
      "0031C00031E300322000325F00327F0032CF0032FF0032FF0033580033FF004DC0004DFF00A70000A72100A78800A78A",
      "00A83000A83900A92E00A92E00A9CF00A9CF00AB5B00AB5B00AB6A00AB6B00FD3E00FD3F00FE1000FE1900FE3000FE52",
      "00FE5400FE6600FE6800FE6B00FEFF00FEFF00FF0100FF2000FF3B00FF4000FF5B00FF6500FF7000FF7000FF9E00FF9F",
      "00FFE000FFE600FFE800FFEE00FFF900FFFD01010001010201010701013301013701013F01019001019C0101D00101FC",
      "0102E10102FB01BCA001BCA301CF5001CFC301D00001D0F501D10001D12601D12901D16601D16A01D17A01D18301D184",
      "01D18C01D1A901D1AE01D1EA01D2C001D2D301D2E001D2F301D30001D35601D36001D37801D40001D45401D45601D49C",
      "01D49E01D49F01D4A201D4A201D4A501D4A601D4A901D4AC01D4AE01D4B901D4BB01D4BB01D4BD01D4C301D4C501D505",
      "01D50701D50A01D50D01D51401D51601D51C01D51E01D53901D53B01D53E01D54001D54401D54601D54601D54A01D550",
      "01D55201D6A501D6A801D7CB01D7CE01D7FF01EC7101ECB401ED0101ED3D01F00001F02B01F03001F09301F0A001F0AE",
      "01F0B101F0BF01F0C101F0CF01F0D101F0F501F10001F1AD01F1E601F1FF01F20101F20201F21001F23B01F24001F248",
      "01F25001F25101F26001F26501F30001F6D701F6DC01F6EC01F6F001F6FC01F70001F77601F77B01F7D901F7E001F7EB",
      "01F7F001F7F001F80001F80B01F81001F84701F85001F85901F86001F88701F89001F8AD01F8B001F8B101F90001FA53",
      "01FA6001FA6D01FA7001FA7C01FA8001FA8801FA9001FABD01FABF01FAC501FACE01FADB01FAE001FAE801FAF001FAF8",
      "01FB0001FB9201FB9401FBCA01FBF001FBF90E00010E00010E00200E007F"]
    extensions := String.join [
      "00000000004000005B00006000007B0000A90000AB0000B90000BB0000BF0000D70000D70000F70000F70002B90002DF",
      "0002E50002E90002EC0002FF00037400037400037E00037E0003850003850003870003870006050006050006DD0006DD",
      "0008E20008E2000E3F000E3F000FD5000FD80016EB0016ED00200000200B00200E00202E002030002064002066002070",
      "00207400207E00208000208E0020A00020C000210000212500212700212900212C00213100213300214D00214F00215F",
      "00218900218B00219000242600244000244A0024600027FF002900002B73002B76002B95002B97002BFF002E00002E42",
      "002E44002E5D002FF0002FFB00300000300000300400300400301200301200302000302000303600303600324800325F",
      "00327F00327F0032B10032BF0032CC0032CF00337100337A0033800033DF0033FF0033FF004DC0004DFF00A70800A721",
      "00A78800A78A00AB5B00AB5B00AB6A00AB6B00FE1000FE1900FE3000FE4400FE4700FE5200FE5400FE6600FE6800FE6B",
      "00FEFF00FEFF00FF0100FF2000FF3B00FF4000FF5B00FF6000FFE000FFE600FFE800FFEE00FFF900FFFD01019001019C",
      "0101D00101FC01CF5001CFC301D00001D0F501D10001D12601D12901D16601D16A01D17A01D18301D18401D18C01D1A9",
      "01D1AE01D1EA01D2C001D2D301D2E001D2F301D30001D35601D37201D37801D40001D45401D45601D49C01D49E01D49F",
      "01D4A201D4A201D4A501D4A601D4A901D4AC01D4AE01D4B901D4BB01D4BB01D4BD01D4C301D4C501D50501D50701D50A",
      "01D50D01D51401D51601D51C01D51E01D53901D53B01D53E01D54001D54401D54601D54601D54A01D55001D55201D6A5",
      "01D6A801D7CB01D7CE01D7FF01EC7101ECB401ED0101ED3D01F00001F02B01F03001F09301F0A001F0AE01F0B101F0BF",
      "01F0C101F0CF01F0D101F0F501F10001F1AD01F1E601F1FF01F20101F20201F21001F23B01F24001F24801F26001F265",
      "01F30001F6D701F6DC01F6EC01F6F001F6FC01F70001F77601F77B01F7D901F7E001F7EB01F7F001F7F001F80001F80B",
      "01F81001F84701F85001F85901F86001F88701F89001F8AD01F8B001F8B101F90001FA5301FA6001FA6D01FA7001FA7C",
      "01FA8001FA8801FA9001FABD01FABF01FAC501FACE01FADB01FAE001FAE801FAF001FAF801FB0001FB9201FB9401FBCA",
      "01FBF001FBF90E00010E00010E00200E007F"] },
  { names := ["copt", "coptic", "qaac"]
    script := String.join [
      "0003E20003EF002C80002CF3002CF9002CFF"]
    extensions := String.join [
      "0003E20003EF002C80002CF3002CF9002CFF0102E00102FB"] },
  { names := ["xsux", "cuneiform"]
    script := String.join [
      "01200001239901240001246E012470012474012480012543"]
    extensions := String.join [
      "01200001239901240001246E012470012474012480012543"] },
  { names := ["cprt", "cypriot"]
    script := String.join [
      "01080001080501080801080801080A01083501083701083801083C01083C01083F01083F"]
    extensions := String.join [
      "01010001010201010701013301013701013F01080001080501080801080801080A01083501083701083801083C01083C",
      "01083F01083F"] },
  { names := ["cpmn", "cyprominoan"]
    script := String.join [
      "012F90012FF2"]
    extensions := String.join [
      "010100010101012F90012FF2"] },
  { names := ["cyrl", "cyrillic"]
    script := String.join [
      "00040000048400048700052F001C80001C88001D2B001D2B001D78001D78002DE0002DFF00A64000A69F00FE2E00FE2F",
      "01E03001E06D01E08F01E08F"]
    extensions := String.join [
      "00040000052F001C80001C88001D2B001D2B001D78001D78001DF8001DF8002DE0002DFF002E43002E4300A64000A69F",
      "00FE2E00FE2F01E03001E06D01E08F01E08F"] },
  { names := ["dsrt", "deseret"]
    script := String.join [
      "01040001044F"]
    extensions := String.join [
      "01040001044F"] },
  { names := ["deva", "devanagari"]
    script := String.join [
      "00090000095000095500096300096600097F00A8E000A8FF011B00011B09"]
    extensions := String.join [
      "00090000095200095500097F001CD0001CF6001CF8001CF90020F00020F000A83000A83900A8E000A8FF011B00011B09"] },
  { names := ["diak", "divesakuru"]
    script := String.join [
      "01190001190601190901190901190C01191301191501191601191801193501193701193801193B011946011950011959"]
    extensions := String.join [
      "01190001190601190901190901190C01191301191501191601191801193501193701193801193B011946011950011959"] },
  { names := ["dogr", "dogra"]
    script := String.join [
      "01180001183B"]
    extensions := String.join [
      "00096400096F00A83000A83901180001183B"] },
  { names := ["dupl", "duployan"]
    script := String.join [
      "01BC0001BC6A01BC7001BC7C01BC8001BC8801BC9001BC9901BC9C01BC9F"]
    extensions := String.join [
      "01BC0001BC6A01BC7001BC7C01BC8001BC8801BC9001BC9901BC9C01BCA3"] },
  { names := ["egyp", "egyptianhieroglyphs"]
    script := String.join [
      "013000013455"]
    extensions := String.join [
      "013000013455"] },
  { names := ["elba", "elbasan"]
    script := String.join [
      "010500010527"]
    extensions := String.join [
      "010500010527"] },
  { names := ["elym", "elymaic"]
    script := String.join [
      "010FE0010FF6"]
    extensions := String.join [
      "010FE0010FF6"] },
  { names := ["ethi", "ethiopic"]
    script := String.join [
      "00120000124800124A00124D00125000125600125800125800125A00125D00126000128800128A00128D0012900012B0",
      "0012B20012B50012B80012BE0012C00012C00012C20012C50012C80012D60012D800131000131200131500131800135A",
      "00135D00137C001380001399002D80002D96002DA0002DA6002DA8002DAE002DB0002DB6002DB8002DBE002DC0002DC6",
      "002DC8002DCE002DD0002DD6002DD8002DDE00AB0100AB0600AB0900AB0E00AB1100AB1600AB2000AB2600AB2800AB2E",
      "01E7E001E7E601E7E801E7EB01E7ED01E7EE01E7F001E7FE"]
    extensions := String.join [
      "00120000124800124A00124D00125000125600125800125800125A00125D00126000128800128A00128D0012900012B0",
      "0012B20012B50012B80012BE0012C00012C00012C20012C50012C80012D60012D800131000131200131500131800135A",
      "00135D00137C001380001399002D80002D96002DA0002DA6002DA8002DAE002DB0002DB6002DB8002DBE002DC0002DC6",
      "002DC8002DCE002DD0002DD6002DD8002DDE00AB0100AB0600AB0900AB0E00AB1100AB1600AB2000AB2600AB2800AB2E",
      "01E7E001E7E601E7E801E7EB01E7ED01E7EE01E7F001E7FE"] },
  { names := ["geor", "georgian"]
    script := String.join [
      "0010A00010C50010C70010C70010CD0010CD0010D00010FA0010FC0010FF001C90001CBA001CBD001CBF002D00002D25",
      "002D27002D27002D2D002D2D"]
    extensions := String.join [
      "0010A00010C50010C70010C70010CD0010CD0010D00010FF001C90001CBA001CBD001CBF002D00002D25002D27002D27",
      "002D2D002D2D"] },
  { names := ["glag", "glagolitic"]
    script := String.join [
      "002C00002C5F01E00001E00601E00801E01801E01B01E02101E02301E02401E02601E02A"]
    extensions := String.join [
      "000484000484000487000487002C00002C5F002E43002E4300A66F00A66F01E00001E00601E00801E01801E01B01E021",
      "01E02301E02401E02601E02A"] },
  { names := ["goth", "gothic"]
    script := String.join [
      "01033001034A"]
    extensions := String.join [
      "01033001034A"] },
  { names := ["gran", "grantha"]
    script := String.join [
      "01130001130301130501130C01130F01131001131301132801132A01133001133201133301133501133901133C011344",
      "01134701134801134B01134D01135001135001135701135701135D01136301136601136C011370011374"]
    extensions := String.join [
      "000951000952000964000965000BE6000BF3001CD0001CD0001CD2001CD3001CF2001CF4001CF8001CF90020F00020F0",
      "01130001130301130501130C01130F01131001131301132801132A01133001133201133301133501133901133B011344",
      "01134701134801134B01134D01135001135001135701135701135D01136301136601136C011370011374011FD0011FD1",
      "011FD3011FD3"] },
  { names := ["grek", "greek"]
    script := String.join [
      "00037000037300037500037700037A00037D00037F00037F00038400038400038600038600038800038A00038C00038C",
      "00038E0003A10003A30003E10003F00003FF001D26001D2A001D5D001D61001D66001D6A001DBF001DBF001F00001F15",
      "001F18001F1D001F20001F45001F48001F4D001F50001F57001F59001F59001F5B001F5B001F5D001F5D001F5F001F7D",
      "001F80001FB4001FB6001FC4001FC6001FD3001FD6001FDB001FDD001FEF001FF2001FF4001FF6001FFE002126002126",
      "00AB6500AB6501014001018E0101A00101A001D20001D245"]
    extensions := String.join [
      "00034200034200034500034500037000037300037500037700037A00037D00037F00037F000384000384000386000386",
      "00038800038A00038C00038C00038E0003A10003A30003E10003F00003FF001D26001D2A001D5D001D61001D66001D6A",
      "001DBF001DC1001F00001F15001F18001F1D001F20001F45001F48001F4D001F50001F57001F59001F59001F5B001F5B",
      "001F5D001F5D001F5F001F7D001F80001FB4001FB6001FC4001FC6001FD3001FD6001FDB001FDD001FEF001FF2001FF4",
      "001FF6001FFE00212600212600AB6500AB6501014001018E0101A00101A001D20001D245"] },
  { names := ["gujr", "gujarati"]
    script := String.join [
      "000A81000A83000A85000A8D000A8F000A91000A93000AA8000AAA000AB0000AB2000AB3000AB5000AB9000ABC000AC5",
      "000AC7000AC9000ACB000ACD000AD0000AD0000AE0000AE3000AE6000AF1000AF9000AFF"]
    extensions := String.join [
      "000951000952000964000965000A81000A83000A85000A8D000A8F000A91000A93000AA8000AAA000AB0000AB2000AB3",
      "000AB5000AB9000ABC000AC5000AC7000AC9000ACB000ACD000AD0000AD0000AE0000AE3000AE6000AF1000AF9000AFF",
      "00A83000A839"] },
  { names := ["gong", "gunjalagondi"]
    script := String.join [
      "011D60011D65011D67011D68011D6A011D8E011D90011D91011D93011D98011DA0011DA9"]
    extensions := String.join [
      "000964000965011D60011D65011D67011D68011D6A011D8E011D90011D91011D93011D98011DA0011DA9"] },
  { names := ["guru", "gurmukhi"]
    script := String.join [
      "000A01000A03000A05000A0A000A0F000A10000A13000A28000A2A000A30000A32000A33000A35000A36000A38000A39",
      "000A3C000A3C000A3E000A42000A47000A48000A4B000A4D000A51000A51000A59000A5C000A5E000A5E000A66000A76"]
    extensions := String.join [
      "000951000952000964000965000A01000A03000A05000A0A000A0F000A10000A13000A28000A2A000A30000A32000A33",
      "000A35000A36000A38000A39000A3C000A3C000A3E000A42000A47000A48000A4B000A4D000A51000A51000A59000A5C",
      "000A5E000A5E000A66000A7600A83000A839"] },
  { names := ["hani", "han"]
    script := String.join [
      "002E80002E99002E9B002EF3002F00002FD500300500300500300700300700302100302900303800303B003400004DBF",
      "004E00009FFF00F90000FA6D00FA7000FAD9016FE2016FE3016FF0016FF102000002A6DF02A70002B73902B74002B81D",
      "02B82002CEA102CEB002EBE002F80002FA1D03000003134A0313500323AF"]
    extensions := String.join [
      "002E80002E99002E9B002EF3002F00002FD500300100300300300500301100301300301F00302100302D003030003030",
      "00303700303F0030FB0030FB00319000319F0031C00031E30032200032470032800032B00032C00032CB0032FF0032FF",
      "00335800337000337B00337F0033E00033FE003400004DBF004E00009FFF00A70000A70700F90000FA6D00FA7000FAD9",
      "00FE4500FE4600FF6100FF65016FE2016FE3016FF0016FF101D36001D37101F25001F25102000002A6DF02A70002B739",
      "02B74002B81D02B82002CEA102CEB002EBE002F80002FA1D03000003134A0313500323AF"] },
  { names := ["hang", "hangul"]
    script := String.join [
      "0011000011FF00302E00302F00313100318E00320000321E00326000327E00A96000A97C00AC0000D7A300D7B000D7C6",
      "00D7CB00D7FB00FFA000FFBE00FFC200FFC700FFCA00FFCF00FFD200FFD700FFDA00FFDC"]
    extensions := String.join [
      "0011000011FF00300100300300300800301100301300301F00302E0030300030370030370030FB0030FB00313100318E",
      "00320000321E00326000327E00A96000A97C00AC0000D7A300D7B000D7C600D7CB00D7FB00FE4500FE4600FF6100FF65",
      "00FFA000FFBE00FFC200FFC700FFCA00FFCF00FFD200FFD700FFDA00FFDC"] },
  { names := ["rohg", "hanifirohingya"]
    script := String.join [
      "010D00010D27010D30010D39"]
    extensions := String.join [
      "00060C00060C00061B00061B00061F00061F0006400006400006D40006D4010D00010D27010D30010D39"] },
  { names := ["hano", "hanunoo"]
    script := String.join [
      "001720001734"]
    extensions := String.join [
      "001720001736"] },
  { names := ["hatr", "hatran"]
    script := String.join [
      "0108E00108F20108F40108F50108FB0108FF"]
    extensions := String.join [
      "0108E00108F20108F40108F50108FB0108FF"] },
  { names := ["hebr", "hebrew"]
    script := String.join [
      "0005910005C70005D00005EA0005EF0005F400FB1D00FB3600FB3800FB3C00FB3E00FB3E00FB4000FB4100FB4300FB44",
      "00FB4600FB4F"]
    extensions := String.join [
      "0005910005C70005D00005EA0005EF0005F400FB1D00FB3600FB3800FB3C00FB3E00FB3E00FB4000FB4100FB4300FB44",
      "00FB4600FB4F"] },
  { names := ["hira", "hiragana"]
    script := String.join [
      "00304100309600309D00309F01B00101B11F01B13201B13201B15001B15201F20001F200"]
    extensions := String.join [
      "00300100300300300800301100301300301F00303000303500303700303700303C00303D0030410030960030990030A0",
      "0030FB0030FC00FE4500FE4600FF6100FF6500FF7000FF7000FF9E00FF9F01B00101B11F01B13201B13201B15001B152",
      "01F20001F200"] },
  { names := ["armi", "imperialaramaic"]
    script := String.join [
      "01084001085501085701085F"]
    extensions := String.join [
      "01084001085501085701085F"] },
  { names := ["zinh", "inherited", "qaai"]
    script := String.join [
      "00030000036F00048500048600064B000655000670000670000951000954001AB0001ACE001CD0001CD2001CD4001CE0",
      "001CE2001CE8001CED001CED001CF4001CF4001CF8001CF9001DC0001DFF00200C00200D0020D00020F000302A00302D",
      "00309900309A00FE0000FE0F00FE2000FE2D0101FD0101FD0102E00102E001133B01133B01CF0001CF2D01CF3001CF46",
      "01D16701D16901D17B01D18201D18501D18B01D1AA01D1AD0E01000E01EF"]
    extensions := String.join [
      "000300000341000343000344000346000362000953000954001AB0001ACE001DC2001DF7001DF9001DF9001DFB001DFF",
      "00200C00200D0020D00020EF00FE0000FE0F00FE2000FE2D0101FD0101FD01CF0001CF2D01CF3001CF4601D16701D169",
      "01D17B01D18201D18501D18B01D1AA01D1AD0E01000E01EF"] },
  { names := ["phli", "inscriptionalpahlavi"]
    script := String.join [
      "010B60010B72010B78010B7F"]
    extensions := String.join [
      "010B60010B72010B78010B7F"] },
  { names := ["prti", "inscriptionalparthian"]
    script := String.join [
      "010B40010B55010B58010B5F"]
    extensions := String.join [
      "010B40010B55010B58010B5F"] },
  { names := ["java", "javanese"]
    script := String.join [
      "00A98000A9CD00A9D000A9D900A9DE00A9DF"]
    extensions := String.join [
      "00A98000A9CD00A9CF00A9D900A9DE00A9DF"] },
  { names := ["kthi", "kaithi"]
    script := String.join [
      "0110800110C20110CD0110CD"]
    extensions := String.join [
      "00096600096F00A83000A8390110800110C20110CD0110CD"] },
  { names := ["knda", "kannada"]
    script := String.join [
      "000C80000C8C000C8E000C90000C92000CA8000CAA000CB3000CB5000CB9000CBC000CC4000CC6000CC8000CCA000CCD",
      "000CD5000CD6000CDD000CDE000CE0000CE3000CE6000CEF000CF1000CF3"]
    extensions := String.join [
      "000951000952000964000965000C80000C8C000C8E000C90000C92000CA8000CAA000CB3000CB5000CB9000CBC000CC4",
      "000CC6000CC8000CCA000CCD000CD5000CD6000CDD000CDE000CE0000CE3000CE6000CEF000CF1000CF3001CD0001CD0",
      "001CD2001CD2001CDA001CDA001CF2001CF2001CF4001CF400A83000A835"] },
  { names := ["kana", "katakana"]
    script := String.join [
      "0030A10030FA0030FD0030FF0031F00031FF0032D00032FE00330000335700FF6600FF6F00FF7100FF9D01AFF001AFF3",
      "01AFF501AFFB01AFFD01AFFE01B00001B00001B12001B12201B15501B15501B16401B167"]
    extensions := String.join [
      "00300100300300300800301100301300301F00303000303500303700303700303C00303D00309900309C0030A00030FF",
      "0031F00031FF0032D00032FE00330000335700FE4500FE4600FF6100FF9F01AFF001AFF301AFF501AFFB01AFFD01AFFE",
      "01B00001B00001B12001B12201B15501B15501B16401B167"] },
  { names := ["kawi"]
    script := String.join [
      "011F00011F10011F12011F3A011F3E011F59"]
    extensions := String.join [
      "011F00011F10011F12011F3A011F3E011F59"] },
  { names := ["kali", "kayahli"]
    script := String.join [
      "00A90000A92D00A92F00A92F"]
    extensions := String.join [
      "00A90000A92F"] },
  { names := ["khar", "kharoshthi"]
    script := String.join [
      "010A00010A03010A05010A06010A0C010A13010A15010A17010A19010A35010A38010A3A010A3F010A48010A50010A58"]
    extensions := String.join [
      "010A00010A03010A05010A06010A0C010A13010A15010A17010A19010A35010A38010A3A010A3F010A48010A50010A58"] },
  { names := ["kits", "khitansmallscript"]
    script := String.join [
      "016FE4016FE4018B00018CD5"]
    extensions := String.join [
      "016FE4016FE4018B00018CD5"] },
  { names := ["khmr", "khmer"]
    script := String.join [
      "0017800017DD0017E00017E90017F00017F90019E00019FF"]
    extensions := String.join [
      "0017800017DD0017E00017E90017F00017F90019E00019FF"] },
  { names := ["khoj", "khojki"]
    script := String.join [
      "011200011211011213011241"]
    extensions := String.join [
      "000AE6000AEF00A83000A839011200011211011213011241"] },
  { names := ["sind", "khudawadi"]
    script := String.join [
      "0112B00112EA0112F00112F9"]
    extensions := String.join [
      "00096400096500A83000A8390112B00112EA0112F00112F9"] },
  { names := ["laoo", "lao"]
    script := String.join [
      "000E81000E82000E84000E84000E86000E8A000E8C000EA3000EA5000EA5000EA7000EBD000EC0000EC4000EC6000EC6",
      "000EC8000ECE000ED0000ED9000EDC000EDF"]
    extensions := String.join [
      "000E81000E82000E84000E84000E86000E8A000E8C000EA3000EA5000EA5000EA7000EBD000EC0000EC4000EC6000EC6",
      "000EC8000ECE000ED0000ED9000EDC000EDF"] },
  { names := ["latn", "latin"]
    script := String.join [
      "00004100005A00006100007A0000AA0000AA0000BA0000BA0000C00000D60000D80000F60000F80002B80002E00002E4",
      "001D00001D25001D2C001D5C001D62001D65001D6B001D77001D79001DBE001E00001EFF00207100207100207F00207F",
      "00209000209C00212A00212B00213200213200214E00214E002160002188002C60002C7F00A72200A78700A78B00A7CA",
      "00A7D000A7D100A7D300A7D300A7D500A7D900A7F200A7FF00AB3000AB5A00AB5C00AB6400AB6600AB6900FB0000FB06",
      "00FF2100FF3A00FF4100FF5A0107800107850107870107B00107B20107BA01DF0001DF1E01DF2501DF2A"]
    extensions := String.join [
      "00004100005A00006100007A0000AA0000AA0000BA0000BA0000C00000D60000D80000F60000F80002B80002E00002E4",
      "00036300036F0004850004860009510009520010FB0010FB001D00001D25001D2C001D5C001D62001D65001D6B001D77",
      "001D79001DBE001E00001EFF00202F00202F00207100207100207F00207F00209000209C0020F00020F000212A00212B",
      "00213200213200214E00214E002160002188002C60002C7F00A70000A70700A72200A78700A78B00A7CA00A7D000A7D1",
      "00A7D300A7D300A7D500A7D900A7F200A7FF00A92E00A92E00AB3000AB5A00AB5C00AB6400AB6600AB6900FB0000FB06",
      "00FF2100FF3A00FF4100FF5A0107800107850107870107B00107B20107BA01DF0001DF1E01DF2501DF2A"] },
  { names := ["lepc", "lepcha"]
    script := String.join [
      "001C00001C37001C3B001C49001C4D001C4F"]
    extensions := String.join [
      "001C00001C37001C3B001C49001C4D001C4F"] },
  { names := ["limb", "limbu"]
    script := String.join [
      "00190000191E00192000192B00193000193B00194000194000194400194F"]
    extensions := String.join [
      "00096500096500190000191E00192000192B00193000193B00194000194000194400194F"] },
  { names := ["lina", "lineara"]
    script := String.join [
      "010600010736010740010755010760010767"]
    extensions := String.join [
      "010107010133010600010736010740010755010760010767"] },
  { names := ["linb", "linearb"]
    script := String.join [
      "01000001000B01000D01002601002801003A01003C01003D01003F01004D01005001005D0100800100FA"]
    extensions := String.join [
      "01000001000B01000D01002601002801003A01003C01003D01003F01004D01005001005D0100800100FA010100010102",
      "01010701013301013701013F"] },
  { names := ["lisu"]
    script := String.join [
      "00A4D000A4FF011FB0011FB0"]
    extensions := String.join [
      "00A4D000A4FF011FB0011FB0"] },
  { names := ["lyci", "lycian"]
    script := String.join [
      "01028001029C"]
    extensions := String.join [
      "01028001029C"] },
  { names := ["lydi", "lydian"]
    script := String.join [
      "01092001093901093F01093F"]
    extensions := String.join [
      "01092001093901093F01093F"] },
  { names := ["mahj", "mahajani"]
    script := String.join [
      "011150011176"]
    extensions := String.join [
      "00096400096F00A83000A839011150011176"] },
  { names := ["maka", "makasar"]
    script := String.join [
      "011EE0011EF8"]
    extensions := String.join [
      "011EE0011EF8"] },
  { names := ["mlym", "malayalam"]
    script := String.join [
      "000D00000D0C000D0E000D10000D12000D44000D46000D48000D4A000D4F000D54000D63000D66000D7F"]
    extensions := String.join [
      "000951000952000964000965000D00000D0C000D0E000D10000D12000D44000D46000D48000D4A000D4F000D54000D63",
      "000D66000D7F001CDA001CDA00A83000A832"] },
  { names := ["mand", "mandaic"]
    script := String.join [
      "00084000085B00085E00085E"]
    extensions := String.join [
      "00064000064000084000085B00085E00085E"] },
  { names := ["mani", "manichaean"]
    script := String.join [
      "010AC0010AE6010AEB010AF6"]
    extensions := String.join [
      "000640000640010AC0010AE6010AEB010AF6"] },
  { names := ["marc", "marchen"]
    script := String.join [
      "011C70011C8F011C92011CA7011CA9011CB6"]
    extensions := String.join [
      "011C70011C8F011C92011CA7011CA9011CB6"] },
  { names := ["gonm", "masaramgondi"]
    script := String.join [
      "011D00011D06011D08011D09011D0B011D36011D3A011D3A011D3C011D3D011D3F011D47011D50011D59"]
    extensions := String.join [
      "000964000965011D00011D06011D08011D09011D0B011D36011D3A011D3A011D3C011D3D011D3F011D47011D50011D59"] },
  { names := ["medf", "medefaidrin"]
    script := String.join [
      "016E40016E9A"]
    extensions := String.join [
      "016E40016E9A"] },
  { names := ["mtei", "meeteimayek"]
    script := String.join [
      "00AAE000AAF600ABC000ABED00ABF000ABF9"]
    extensions := String.join [
      "00AAE000AAF600ABC000ABED00ABF000ABF9"] },
  { names := ["mend", "mendekikakui"]
    script := String.join [
      "01E80001E8C401E8C701E8D6"]
    extensions := String.join [
      "01E80001E8C401E8C701E8D6"] },
  { names := ["merc", "meroiticcursive"]
    script := String.join [
      "0109A00109B70109BC0109CF0109D20109FF"]
    extensions := String.join [
      "0109A00109B70109BC0109CF0109D20109FF"] },
  { names := ["mero", "meroitichieroglyphs"]
    script := String.join [
      "01098001099F"]
    extensions := String.join [
      "01098001099F"] },
  { names := ["plrd", "miao"]
    script := String.join [
      "016F00016F4A016F4F016F87016F8F016F9F"]
    extensions := String.join [
      "016F00016F4A016F4F016F87016F8F016F9F"] },
  { names := ["modi"]
    script := String.join [
      "011600011644011650011659"]
    extensions := String.join [
      "00A83000A839011600011644011650011659"] },
  { names := ["mong", "mongolian"]
    script := String.join [
      "0018000018010018040018040018060018190018200018780018800018AA01166001166C"]
    extensions := String.join [
      "0018000018190018200018780018800018AA00202F00202F01166001166C"] },
  { names := ["mroo", "mro"]
    script := String.join [
      "016A40016A5E016A60016A69016A6E016A6F"]
    extensions := String.join [
      "016A40016A5E016A60016A69016A6E016A6F"] },
  { names := ["mult", "multani"]
    script := String.join [
      "01128001128601128801128801128A01128D01128F01129D01129F0112A9"]
    extensions := String.join [
      "000A66000A6F01128001128601128801128801128A01128D01128F01129D01129F0112A9"] },
  { names := ["mymr", "myanmar"]
    script := String.join [
      "00100000109F00A9E000A9FE00AA6000AA7F"]
    extensions := String.join [
      "00100000109F00A92E00A92E00A9E000A9FE00AA6000AA7F"] },
  { names := ["nbat", "nabataean"]
    script := String.join [
      "01088001089E0108A70108AF"]
    extensions := String.join [
      "01088001089E0108A70108AF"] },
  { names := ["nagm", "nagmundari"]
    script := String.join [
      "01E4D001E4F9"]
    extensions := String.join [
      "01E4D001E4F9"] },
  { names := ["nand", "nandinagari"]
    script := String.join [
      "0119A00119A70119AA0119D70119DA0119E4"]
    extensions := String.join [
      "000964000965000CE6000CEF001CE9001CE9001CF2001CF2001CFA001CFA00A83000A8350119A00119A70119AA0119D7",
      "0119DA0119E4"] },
  { names := ["talu", "newtailue"]
    script := String.join [
      "0019800019AB0019B00019C90019D00019DA0019DE0019DF"]
    extensions := String.join [
      "0019800019AB0019B00019C90019D00019DA0019DE0019DF"] },
  { names := ["newa"]
    script := String.join [
      "01140001145B01145D011461"]
    extensions := String.join [
      "01140001145B01145D011461"] },
  { names := ["nkoo", "nko"]
    script := String.join [
      "0007C00007FA0007FD0007FF"]
    extensions := String.join [
      "00060C00060C00061B00061B00061F00061F0007C00007FA0007FD0007FF00FD3E00FD3F"] },
  { names := ["nshu", "nushu"]
    script := String.join [
      "016FE1016FE101B17001B2FB"]
    extensions := String.join [
      "016FE1016FE101B17001B2FB"] },
  { names := ["hmnp", "nyiakengpuachuehmong"]
    script := String.join [
      "01E10001E12C01E13001E13D01E14001E14901E14E01E14F"]
    extensions := String.join [
      "01E10001E12C01E13001E13D01E14001E14901E14E01E14F"] },
  { names := ["ogam", "ogham"]
    script := String.join [
      "00168000169C"]
    extensions := String.join [
      "00168000169C"] },
  { names := ["olck", "olchiki"]
    script := String.join [
      "001C50001C7F"]
    extensions := String.join [
      "001C50001C7F"] },
  { names := ["hung", "oldhungarian"]
    script := String.join [
      "010C80010CB2010CC0010CF2010CFA010CFF"]
    extensions := String.join [
      "010C80010CB2010CC0010CF2010CFA010CFF"] },
  { names := ["ital", "olditalic"]
    script := String.join [
      "01030001032301032D01032F"]
    extensions := String.join [
      "01030001032301032D01032F"] },
  { names := ["narb", "oldnortharabian"]
    script := String.join [
      "010A80010A9F"]
    extensions := String.join [
      "010A80010A9F"] },
  { names := ["perm", "oldpermic"]
    script := String.join [
      "01035001037A"]
    extensions := String.join [
      "00048300048301035001037A"] },
  { names := ["xpeo", "oldpersian"]
    script := String.join [
      "0103A00103C30103C80103D5"]
    extensions := String.join [
      "0103A00103C30103C80103D5"] },
  { names := ["sogo", "oldsogdian"]
    script := String.join [
      "010F00010F27"]
    extensions := String.join [
      "010F00010F27"] },
  { names := ["sarb", "oldsoutharabian"]
    script := String.join [
      "010A60010A7F"]
    extensions := String.join [
      "010A60010A7F"] },
  { names := ["orkh", "oldturkic"]
    script := String.join [
      "010C00010C48"]
    extensions := String.join [
      "010C00010C48"] },
  { names := ["ougr", "olduyghur"]
    script := String.join [
      "010F70010F89"]
    extensions := String.join [
      "000640000640010AF2010AF2010F70010F89"] },
  { names := ["orya", "oriya"]
    script := String.join [
      "000B01000B03000B05000B0C000B0F000B10000B13000B28000B2A000B30000B32000B33000B35000B39000B3C000B44",
      "000B47000B48000B4B000B4D000B55000B57000B5C000B5D000B5F000B63000B66000B77"]
    extensions := String.join [
      "000951000952000964000965000B01000B03000B05000B0C000B0F000B10000B13000B28000B2A000B30000B32000B33",
      "000B35000B39000B3C000B44000B47000B48000B4B000B4D000B55000B57000B5C000B5D000B5F000B63000B66000B77",
      "001CDA001CDA001CF2001CF2"] },
  { names := ["osge", "osage"]
    script := String.join [
      "0104B00104D30104D80104FB"]
    extensions := String.join [
      "0104B00104D30104D80104FB"] },
  { names := ["osma", "osmanya"]
    script := String.join [
      "01048001049D0104A00104A9"]
    extensions := String.join [
      "01048001049D0104A00104A9"] },
  { names := ["hmng", "pahawhhmong"]
    script := String.join [
      "016B00016B45016B50016B59016B5B016B61016B63016B77016B7D016B8F"]
    extensions := String.join [
      "016B00016B45016B50016B59016B5B016B61016B63016B77016B7D016B8F"] },
  { names := ["palm", "palmyrene"]
    script := String.join [
      "01086001087F"]
    extensions := String.join [
      "01086001087F"] },
  { names := ["pauc", "paucinhau"]
    script := String.join [
      "011AC0011AF8"]
    extensions := String.join [
      "011AC0011AF8"] },
  { names := ["phag", "phagspa"]
    script := String.join [
      "00A84000A877"]
    extensions := String.join [
      "00180200180300180500180500A84000A877"] },
  { names := ["phnx", "phoenician"]
    script := String.join [
      "01090001091B01091F01091F"]
    extensions := String.join [
      "01090001091B01091F01091F"] },
  { names := ["phlp", "psalterpahlavi"]
    script := String.join [
      "010B80010B91010B99010B9C010BA9010BAF"]
    extensions := String.join [
      "000640000640010B80010B91010B99010B9C010BA9010BAF"] },
  { names := ["rjng", "rejang"]
    script := String.join [
      "00A93000A95300A95F00A95F"]
    extensions := String.join [
      "00A93000A95300A95F00A95F"] },
  { names := ["runr", "runic"]
    script := String.join [
      "0016A00016EA0016EE0016F8"]
    extensions := String.join [
      "0016A00016EA0016EE0016F8"] },
  { names := ["samr", "samaritan"]
    script := String.join [
      "00080000082D00083000083E"]
    extensions := String.join [
      "00080000082D00083000083E"] },
  { names := ["saur", "saurashtra"]
    script := String.join [
      "00A88000A8C500A8CE00A8D9"]
    extensions := String.join [
      "00A88000A8C500A8CE00A8D9"] },
  { names := ["shrd", "sharada"]
    script := String.join [
      "0111800111DF"]
    extensions := String.join [
      "000951000951001CD7001CD7001CD9001CD9001CDC001CDD001CE0001CE00111800111DF"] },
  { names := ["shaw", "shavian"]
    script := String.join [
      "01045001047F"]
    extensions := String.join [
      "01045001047F"] },
  { names := ["sidd", "siddham"]
    script := String.join [
      "0115800115B50115B80115DD"]
    extensions := String.join [
      "0115800115B50115B80115DD"] },
  { names := ["sgnw", "signwriting"]
    script := String.join [
      "01D80001DA8B01DA9B01DA9F01DAA101DAAF"]
    extensions := String.join [
      "01D80001DA8B01DA9B01DA9F01DAA101DAAF"] },
  { names := ["sinh", "sinhala"]
    script := String.join [
      "000D81000D83000D85000D96000D9A000DB1000DB3000DBB000DBD000DBD000DC0000DC6000DCA000DCA000DCF000DD4",
      "000DD6000DD6000DD8000DDF000DE6000DEF000DF2000DF40111E10111F4"]
    extensions := String.join [
      "000964000965000D81000D83000D85000D96000D9A000DB1000DB3000DBB000DBD000DBD000DC0000DC6000DCA000DCA",
      "000DCF000DD4000DD6000DD6000DD8000DDF000DE6000DEF000DF2000DF40111E10111F4"] },
  { names := ["sogd", "sogdian"]
    script := String.join [
      "010F30010F59"]
    extensions := String.join [
      "000640000640010F30010F59"] },
  { names := ["sora", "sorasompeng"]
    script := String.join [
      "0110D00110E80110F00110F9"]
    extensions := String.join [
      "0110D00110E80110F00110F9"] },
  { names := ["soyo", "soyombo"]
    script := String.join [
      "011A50011AA2"]
    extensions := String.join [
      "011A50011AA2"] },
  { names := ["sund", "sundanese"]
    script := String.join [
      "001B80001BBF001CC0001CC7"]
    extensions := String.join [
      "001B80001BBF001CC0001CC7"] },
  { names := ["sylo", "sylotinagri"]
    script := String.join [
      "00A80000A82C"]
    extensions := String.join [
      "0009640009650009E60009EF00A80000A82C"] },
  { names := ["syrc", "syriac"]
    script := String.join [
      "00070000070D00070F00074A00074D00074F00086000086A"]
    extensions := String.join [
      "00060C00060C00061B00061C00061F00061F00064000064000064B00065500067000067000070000070D00070F00074A",
      "00074D00074F00086000086A001DF8001DF8001DFA001DFA"] },
  { names := ["tglg", "tagalog"]
    script := String.join [
      "00170000171500171F00171F"]
    extensions := String.join [
      "00170000171500171F00171F001735001736"] },
  { names := ["tagb", "tagbanwa"]
    script := String.join [
      "00176000176C00176E001770001772001773"]
    extensions := String.join [
      "00173500173600176000176C00176E001770001772001773"] },
  { names := ["tale", "taile"]
    script := String.join [
      "00195000196D001970001974"]
    extensions := String.join [
      "00104000104900195000196D001970001974"] },
  { names := ["lana", "taitham"]
    script := String.join [
      "001A20001A5E001A60001A7C001A7F001A89001A90001A99001AA0001AAD"]
    extensions := String.join [
      "001A20001A5E001A60001A7C001A7F001A89001A90001A99001AA0001AAD"] },
  { names := ["tavt", "taiviet"]
    script := String.join [
      "00AA8000AAC200AADB00AADF"]
    extensions := String.join [
      "00AA8000AAC200AADB00AADF"] },
  { names := ["takr", "takri"]
    script := String.join [
      "0116800116B90116C00116C9"]
    extensions := String.join [
      "00096400096500A83000A8390116800116B90116C00116C9"] },
  { names := ["taml", "tamil"]
    script := String.join [
      "000B82000B83000B85000B8A000B8E000B90000B92000B95000B99000B9A000B9C000B9C000B9E000B9F000BA3000BA4",
      "000BA8000BAA000BAE000BB9000BBE000BC2000BC6000BC8000BCA000BCD000BD0000BD0000BD7000BD7000BE6000BFA",
      "011FC0011FF1011FFF011FFF"]
    extensions := String.join [
      "000951000952000964000965000B82000B83000B85000B8A000B8E000B90000B92000B95000B99000B9A000B9C000B9C",
      "000B9E000B9F000BA3000BA4000BA8000BAA000BAE000BB9000BBE000BC2000BC6000BC8000BCA000BCD000BD0000BD0",
      "000BD7000BD7000BE6000BFA001CDA001CDA00A8F300A8F301130101130101130301130301133B01133C011FC0011FF1",
      "011FFF011FFF"] },
  { names := ["tnsa", "tangsa"]
    script := String.join [
      "016A70016ABE016AC0016AC9"]
    extensions := String.join [
      "016A70016ABE016AC0016AC9"] },
  { names := ["tang", "tangut"]
    script := String.join [
      "016FE0016FE00170000187F7018800018AFF018D00018D08"]
    extensions := String.join [
      "016FE0016FE00170000187F7018800018AFF018D00018D08"] },
  { names := ["telu", "telugu"]
    script := String.join [
      "000C00000C0C000C0E000C10000C12000C28000C2A000C39000C3C000C44000C46000C48000C4A000C4D000C55000C56",
      "000C58000C5A000C5D000C5D000C60000C63000C66000C6F000C77000C7F"]
    extensions := String.join [
      "000951000952000964000965000C00000C0C000C0E000C10000C12000C28000C2A000C39000C3C000C44000C46000C48",
      "000C4A000C4D000C55000C56000C58000C5A000C5D000C5D000C60000C63000C66000C6F000C77000C7F001CDA001CDA",
      "001CF2001CF2"] },
  { names := ["thaa", "thaana"]
    script := String.join [
      "0007800007B1"]
    extensions := String.join [
      "00060C00060C00061B00061C00061F00061F0006600006690007800007B100FDF200FDF200FDFD00FDFD"] },
  { names := ["thai"]
    script := String.join [
      "000E01000E3A000E40000E5B"]
    extensions := String.join [
      "000E01000E3A000E40000E5B"] },
  { names := ["tibt", "tibetan"]
    script := String.join [
      "000F00000F47000F49000F6C000F71000F97000F99000FBC000FBE000FCC000FCE000FD4000FD9000FDA"]
    extensions := String.join [
      "000F00000F47000F49000F6C000F71000F97000F99000FBC000FBE000FCC000FCE000FD4000FD9000FDA"] },
  { names := ["tfng", "tifinagh"]
    script := String.join [
      "002D30002D67002D6F002D70002D7F002D7F"]
    extensions := String.join [
      "002D30002D67002D6F002D70002D7F002D7F"] },
  { names := ["tirh", "tirhuta"]
    script := String.join [
      "0114800114C70114D00114D9"]
    extensions := String.join [
      "000951000952000964000965001CF2001CF200A83000A8390114800114C70114D00114D9"] },
  { names := ["toto"]
    script := String.join [
      "01E29001E2AE"]
    extensions := String.join [
      "01E29001E2AE"] },
  { names := ["ugar", "ugaritic"]
    script := String.join [
      "01038001039D01039F01039F"]
    extensions := String.join [
      "01038001039D01039F01039F"] },
  { names := ["vaii", "vai"]
    script := String.join [
      "00A50000A62B"]
    extensions := String.join [
      "00A50000A62B"] },
  { names := ["vith", "vithkuqi"]
    script := String.join [
      "01057001057A01057C01058A01058C0105920105940105950105970105A10105A30105B10105B30105B90105BB0105BC"]
    extensions := String.join [
      "01057001057A01057C01058A01058C0105920105940105950105970105A10105A30105B10105B30105B90105BB0105BC"] },
  { names := ["wcho", "wancho"]
    script := String.join [
      "01E2C001E2F901E2FF01E2FF"]
    extensions := String.join [
      "01E2C001E2F901E2FF01E2FF"] },
  { names := ["wara", "warangciti"]
    script := String.join [
      "0118A00118F20118FF0118FF"]
    extensions := String.join [
      "0118A00118F20118FF0118FF"] },
  { names := ["yezi", "yezidi"]
    script := String.join [
      "010E80010EA9010EAB010EAD010EB0010EB1"]
    extensions := String.join [
      "00060C00060C00061B00061B00061F00061F000660000669010E80010EA9010EAB010EAD010EB0010EB1"] },
  { names := ["yiii", "yi"]
    script := String.join [
      "00A00000A48C00A49000A4C6"]
    extensions := String.join [
      "00300100300200300800301100301400301B0030FB0030FB00A00000A48C00A49000A4C600FF6100FF65"] },
  { names := ["zanb", "zanabazarsquare"]
    script := String.join [
      "011A00011A47"]
    extensions := String.join [
      "011A00011A47"] }]

/-- 名前（緩くそろえたもの）の文字体系。 -/
def ScriptEntry.find? (name : String) : Option ScriptEntry :=
  scriptEntries.find? fun e => e.names.contains name

end Workflow.Text
