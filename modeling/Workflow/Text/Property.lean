import Workflow.Text.Ranges

/-!
# 二値の性質

Unicode 15.0 の二値の性質（Uppercase、Emoji、ID_Start など）ごとに、それをもつ code point の
集合を持つ。正規表現の `\p{Uppercase}` などがこれを使う。

表は性質ごとに、区間の先頭と末尾の code point を 16 進 6 桁ずつ続けて書いた文字列である。
区間は昇順で、重ならない。
-/

namespace Workflow.Text

/-- 二値の性質：名前（緩くそろえた別名すべて）と、それをもつ文字の区間。 -/
structure PropertyEntry where
  names : List String
  ranges : String

/-- 正規表現で使える二値の性質。 -/
def propertyEntries : List PropertyEntry := [
  { names := ["ahex", "asciihexdigit"]
    ranges := String.join [
      "000030000039000041000046000061000066"] },
  { names := ["alpha", "alphabetic"]
    ranges := String.join [
      "00004100005A00006100007A0000AA0000AA0000B50000B50000BA0000BA0000C00000D60000D80000F60000F80002C1",
      "0002C60002D10002E00002E40002EC0002EC0002EE0002EE00034500034500037000037400037600037700037A00037D",
      "00037F00037F00038600038600038800038A00038C00038C00038E0003A10003A30003F50003F700048100048A00052F",
      "0005310005560005590005590005600005880005B00005BD0005BF0005BF0005C10005C20005C40005C50005C70005C7",
      "0005D00005EA0005EF0005F200061000061A00062000065700065900065F00066E0006D30006D50006DC0006E10006E8",
      "0006ED0006EF0006FA0006FC0006FF0006FF00071000073F00074D0007B10007CA0007EA0007F40007F50007FA0007FA",
      "00080000081700081A00082C00084000085800086000086A00087000088700088900088E0008A00008C90008D40008DF",
      "0008E30008E90008F000093B00093D00094C00094E00095000095500096300097100098300098500098C00098F000990",
      "0009930009A80009AA0009B00009B20009B20009B60009B90009BD0009C40009C70009C80009CB0009CC0009CE0009CE",
      "0009D70009D70009DC0009DD0009DF0009E30009F00009F10009FC0009FC000A01000A03000A05000A0A000A0F000A10",
      "000A13000A28000A2A000A30000A32000A33000A35000A36000A38000A39000A3E000A42000A47000A48000A4B000A4C",
      "000A51000A51000A59000A5C000A5E000A5E000A70000A75000A81000A83000A85000A8D000A8F000A91000A93000AA8",
      "000AAA000AB0000AB2000AB3000AB5000AB9000ABD000AC5000AC7000AC9000ACB000ACC000AD0000AD0000AE0000AE3",
      "000AF9000AFC000B01000B03000B05000B0C000B0F000B10000B13000B28000B2A000B30000B32000B33000B35000B39",
      "000B3D000B44000B47000B48000B4B000B4C000B56000B57000B5C000B5D000B5F000B63000B71000B71000B82000B83",
      "000B85000B8A000B8E000B90000B92000B95000B99000B9A000B9C000B9C000B9E000B9F000BA3000BA4000BA8000BAA",
      "000BAE000BB9000BBE000BC2000BC6000BC8000BCA000BCC000BD0000BD0000BD7000BD7000C00000C0C000C0E000C10",
      "000C12000C28000C2A000C39000C3D000C44000C46000C48000C4A000C4C000C55000C56000C58000C5A000C5D000C5D",
      "000C60000C63000C80000C83000C85000C8C000C8E000C90000C92000CA8000CAA000CB3000CB5000CB9000CBD000CC4",
      "000CC6000CC8000CCA000CCC000CD5000CD6000CDD000CDE000CE0000CE3000CF1000CF3000D00000D0C000D0E000D10",
      "000D12000D3A000D3D000D44000D46000D48000D4A000D4C000D4E000D4E000D54000D57000D5F000D63000D7A000D7F",
      "000D81000D83000D85000D96000D9A000DB1000DB3000DBB000DBD000DBD000DC0000DC6000DCF000DD4000DD6000DD6",
      "000DD8000DDF000DF2000DF3000E01000E3A000E40000E46000E4D000E4D000E81000E82000E84000E84000E86000E8A",
      "000E8C000EA3000EA5000EA5000EA7000EB9000EBB000EBD000EC0000EC4000EC6000EC6000ECD000ECD000EDC000EDF",
      "000F00000F00000F40000F47000F49000F6C000F71000F83000F88000F97000F99000FBC001000001036001038001038",
      "00103B00103F00105000108F00109A00109D0010A00010C50010C70010C70010CD0010CD0010D00010FA0010FC001248",
      "00124A00124D00125000125600125800125800125A00125D00126000128800128A00128D0012900012B00012B20012B5",
      "0012B80012BE0012C00012C00012C20012C50012C80012D60012D800131000131200131500131800135A00138000138F",
      "0013A00013F50013F80013FD00140100166C00166F00167F00168100169A0016A00016EA0016EE0016F8001700001713",
      "00171F00173300174000175300176000176C00176E0017700017720017730017800017B30017B60017C80017D70017D7",
      "0017DC0017DC0018200018780018800018AA0018B00018F500190000191E00192000192B00193000193800195000196D",
      "0019700019740019800019AB0019B00019C9001A00001A1B001A20001A5E001A61001A74001AA7001AA7001ABF001AC0",
      "001ACC001ACE001B00001B33001B35001B43001B45001B4C001B80001BA9001BAC001BAF001BBA001BE5001BE7001BF1",
      "001C00001C36001C4D001C4F001C5A001C7D001C80001C88001C90001CBA001CBD001CBF001CE9001CEC001CEE001CF3",
      "001CF5001CF6001CFA001CFA001D00001DBF001DE7001DF4001E00001F15001F18001F1D001F20001F45001F48001F4D",
      "001F50001F57001F59001F59001F5B001F5B001F5D001F5D001F5F001F7D001F80001FB4001FB6001FBC001FBE001FBE",
      "001FC2001FC4001FC6001FCC001FD0001FD3001FD6001FDB001FE0001FEC001FF2001FF4001FF6001FFC002071002071",
      "00207F00207F00209000209C00210200210200210700210700210A00211300211500211500211900211D002124002124",
      "00212600212600212800212800212A00212D00212F00213900213C00213F00214500214900214E00214E002160002188",
      "0024B60024E9002C00002CE4002CEB002CEE002CF2002CF3002D00002D25002D27002D27002D2D002D2D002D30002D67",
      "002D6F002D6F002D80002D96002DA0002DA6002DA8002DAE002DB0002DB6002DB8002DBE002DC0002DC6002DC8002DCE",
      "002DD0002DD6002DD8002DDE002DE0002DFF002E2F002E2F00300500300700302100302900303100303500303800303C",
      "00304100309600309D00309F0030A10030FA0030FC0030FF00310500312F00313100318E0031A00031BF0031F00031FF",
      "003400004DBF004E0000A48C00A4D000A4FD00A50000A60C00A61000A61F00A62A00A62B00A64000A66E00A67400A67B",
      "00A67F00A6EF00A71700A71F00A72200A78800A78B00A7CA00A7D000A7D100A7D300A7D300A7D500A7D900A7F200A805",
      "00A80700A82700A84000A87300A88000A8C300A8C500A8C500A8F200A8F700A8FB00A8FB00A8FD00A8FF00A90A00A92A",
      "00A93000A95200A96000A97C00A98000A9B200A9B400A9BF00A9CF00A9CF00A9E000A9EF00A9FA00A9FE00AA0000AA36",
      "00AA4000AA4D00AA6000AA7600AA7A00AABE00AAC000AAC000AAC200AAC200AADB00AADD00AAE000AAEF00AAF200AAF5",
      "00AB0100AB0600AB0900AB0E00AB1100AB1600AB2000AB2600AB2800AB2E00AB3000AB5A00AB5C00AB6900AB7000ABEA",
      "00AC0000D7A300D7B000D7C600D7CB00D7FB00F90000FA6D00FA7000FAD900FB0000FB0600FB1300FB1700FB1D00FB28",
      "00FB2A00FB3600FB3800FB3C00FB3E00FB3E00FB4000FB4100FB4300FB4400FB4600FBB100FBD300FD3D00FD5000FD8F",
      "00FD9200FDC700FDF000FDFB00FE7000FE7400FE7600FEFC00FF2100FF3A00FF4100FF5A00FF6600FFBE00FFC200FFC7",
      "00FFCA00FFCF00FFD200FFD700FFDA00FFDC01000001000B01000D01002601002801003A01003C01003D01003F01004D",
      "01005001005D0100800100FA01014001017401028001029C0102A00102D001030001031F01032D01034A01035001037A",
      "01038001039D0103A00103C30103C80103CF0103D10103D501040001049D0104B00104D30104D80104FB010500010527",
      "01053001056301057001057A01057C01058A01058C0105920105940105950105970105A10105A30105B10105B30105B9",
      "0105BB0105BC0106000107360107400107550107600107670107800107850107870107B00107B20107BA010800010805",
      "01080801080801080A01083501083701083801083C01083C01083F01085501086001087601088001089E0108E00108F2",
      "0108F40108F50109000109150109200109390109800109B70109BE0109BF010A00010A03010A05010A06010A0C010A13",
      "010A15010A17010A19010A35010A60010A7C010A80010A9C010AC0010AC7010AC9010AE4010B00010B35010B40010B55",
      "010B60010B72010B80010B91010C00010C48010C80010CB2010CC0010CF2010D00010D27010E80010EA9010EAB010EAC",
      "010EB0010EB1010F00010F1C010F27010F27010F30010F45010F70010F81010FB0010FC4010FE0010FF6011000011045",
      "0110710110750110800110B80110C20110C20110D00110E8011100011132011144011147011150011172011176011176",
      "0111800111BF0111C10111C40111CE0111CF0111DA0111DA0111DC0111DC011200011211011213011234011237011237",
      "01123E01124101128001128601128801128801128A01128D01128F01129D01129F0112A80112B00112E8011300011303",
      "01130501130C01130F01131001131301132801132A01133001133201133301133501133901133D011344011347011348",
      "01134B01134C01135001135001135701135701135D01136301140001144101144301144501144701144A01145F011461",
      "0114800114C10114C40114C50114C70114C70115800115B50115B80115BE0115D80115DD01160001163E011640011640",
      "0116440116440116800116B50116B80116B801170001171A01171D01172A0117400117460118000118380118A00118DF",
      "0118FF01190601190901190901190C01191301191501191601191801193501193701193801193B01193C01193F011942",
      "0119A00119A70119AA0119D70119DA0119DF0119E10119E10119E30119E4011A00011A32011A35011A3E011A50011A97",
      "011A9D011A9D011AB0011AF8011C00011C08011C0A011C36011C38011C3E011C40011C40011C72011C8F011C92011CA7",
      "011CA9011CB6011D00011D06011D08011D09011D0B011D36011D3A011D3A011D3C011D3D011D3F011D41011D43011D43",
      "011D46011D47011D60011D65011D67011D68011D6A011D8E011D90011D91011D93011D96011D98011D98011EE0011EF6",
      "011F00011F10011F12011F3A011F3E011F40011FB0011FB001200001239901240001246E012480012543012F90012FF0",
      "01300001342F013441013446014400014646016800016A38016A40016A5E016A70016ABE016AD0016AED016B00016B2F",
      "016B40016B43016B63016B77016B7D016B8F016E40016E7F016F00016F4A016F4F016F87016F8F016F9F016FE0016FE1",
      "016FE3016FE3016FF0016FF10170000187F7018800018CD5018D00018D0801AFF001AFF301AFF501AFFB01AFFD01AFFE",
      "01B00001B12201B13201B13201B15001B15201B15501B15501B16401B16701B17001B2FB01BC0001BC6A01BC7001BC7C",
      "01BC8001BC8801BC9001BC9901BC9E01BC9E01D40001D45401D45601D49C01D49E01D49F01D4A201D4A201D4A501D4A6",
      "01D4A901D4AC01D4AE01D4B901D4BB01D4BB01D4BD01D4C301D4C501D50501D50701D50A01D50D01D51401D51601D51C",
      "01D51E01D53901D53B01D53E01D54001D54401D54601D54601D54A01D55001D55201D6A501D6A801D6C001D6C201D6DA",
      "01D6DC01D6FA01D6FC01D71401D71601D73401D73601D74E01D75001D76E01D77001D78801D78A01D7A801D7AA01D7C2",
      "01D7C401D7CB01DF0001DF1E01DF2501DF2A01E00001E00601E00801E01801E01B01E02101E02301E02401E02601E02A",
      "01E03001E06D01E08F01E08F01E10001E12C01E13701E13D01E14E01E14E01E29001E2AD01E2C001E2EB01E4D001E4EB",
      "01E7E001E7E601E7E801E7EB01E7ED01E7EE01E7F001E7FE01E80001E8C401E90001E94301E94701E94701E94B01E94B",
      "01EE0001EE0301EE0501EE1F01EE2101EE2201EE2401EE2401EE2701EE2701EE2901EE3201EE3401EE3701EE3901EE39",
      "01EE3B01EE3B01EE4201EE4201EE4701EE4701EE4901EE4901EE4B01EE4B01EE4D01EE4F01EE5101EE5201EE5401EE54",
      "01EE5701EE5701EE5901EE5901EE5B01EE5B01EE5D01EE5D01EE5F01EE5F01EE6101EE6201EE6401EE6401EE6701EE6A",
      "01EE6C01EE7201EE7401EE7701EE7901EE7C01EE7E01EE7E01EE8001EE8901EE8B01EE9B01EEA101EEA301EEA501EEA9",
      "01EEAB01EEBB01F13001F14901F15001F16901F17001F18902000002A6DF02A70002B73902B74002B81D02B82002CEA1",
      "02CEB002EBE002F80002FA1D03000003134A0313500323AF"] },
  { names := ["bidic", "bidicontrol"]
    ranges := String.join [
      "00061C00061C00200E00200F00202A00202E002066002069"] },
  { names := ["bidim", "bidimirrored"]
    ranges := String.join [
      "00002800002900003C00003C00003E00003E00005B00005B00005D00005D00007B00007B00007D00007D0000AB0000AB",
      "0000BB0000BB000F3A000F3D00169B00169C00203900203A00204500204600207D00207E00208D00208E002140002140",
      "00220100220400220800220D00221100221100221500221600221A00221D00221F002222002224002224002226002226",
      "00222B00223300223900223900223B00224C00225200225500225F00226000226200226200226400226B00226E00228C",
      "00228F0022920022980022980022A20022A30022A60022B80022BE0022BF0022C90022CD0022D00022D10022D60022ED",
      "0022F00022FF00230800230B00232000232100232900232A0027680027750027C00027C00027C30027C60027C80027C9",
      "0027CB0027CD0027D30027D60027DC0027DE0027E20027EF00298300299800299B0029A00029A20029AF0029B80029B8",
      "0029C00029C50029C90029C90029CE0029D20029D40029D50029D80029DC0029E10029E10029E30029E50029E80029E9",
      "0029F40029F90029FC0029FD002A0A002A1C002A1E002A21002A24002A24002A26002A26002A29002A29002A2B002A2E",
      "002A34002A35002A3C002A3E002A57002A58002A64002A65002A6A002A6D002A6F002A70002A73002A74002A79002AA3",
      "002AA6002AAD002AAF002AD6002ADC002ADC002ADE002ADE002AE2002AE6002AEC002AEE002AF3002AF3002AF7002AFB",
      "002AFD002AFD002BFE002BFE002E02002E05002E09002E0A002E0C002E0D002E1C002E1D002E20002E29002E55002E5C",
      "00300800301100301400301B00FE5900FE5E00FE6400FE6500FF0800FF0900FF1C00FF1C00FF1E00FF1E00FF3B00FF3B",
      "00FF3D00FF3D00FF5B00FF5B00FF5D00FF5D00FF5F00FF6000FF6200FF6301D6DB01D6DB01D71501D71501D74F01D74F",
      "01D78901D78901D7C301D7C3"] },
  { names := ["ci", "caseignorable"]
    ranges := String.join [
      "00002700002700002E00002E00003A00003A00005E00005E0000600000600000A80000A80000AD0000AD0000AF0000AF",
      "0000B40000B40000B70000B80002B000036F00037400037500037A00037A000384000385000387000387000483000489",
      "00055900055900055F00055F0005910005BD0005BF0005BF0005C10005C20005C40005C50005C70005C70005F40005F4",
      "00060000060500061000061A00061C00061C00064000064000064B00065F0006700006700006D60006DD0006DF0006E8",
      "0006EA0006ED00070F00070F00071100071100073000074A0007A60007B00007EB0007F50007FA0007FA0007FD0007FD",
      "00081600082D00085900085B00088800088800089000089100089800089F0008C900090200093A00093A00093C00093C",
      "00094100094800094D00094D0009510009570009620009630009710009710009810009810009BC0009BC0009C10009C4",
      "0009CD0009CD0009E20009E30009FE0009FE000A01000A02000A3C000A3C000A41000A42000A47000A48000A4B000A4D",
      "000A51000A51000A70000A71000A75000A75000A81000A82000ABC000ABC000AC1000AC5000AC7000AC8000ACD000ACD",
      "000AE2000AE3000AFA000AFF000B01000B01000B3C000B3C000B3F000B3F000B41000B44000B4D000B4D000B55000B56",
      "000B62000B63000B82000B82000BC0000BC0000BCD000BCD000C00000C00000C04000C04000C3C000C3C000C3E000C40",
      "000C46000C48000C4A000C4D000C55000C56000C62000C63000C81000C81000CBC000CBC000CBF000CBF000CC6000CC6",
      "000CCC000CCD000CE2000CE3000D00000D01000D3B000D3C000D41000D44000D4D000D4D000D62000D63000D81000D81",
      "000DCA000DCA000DD2000DD4000DD6000DD6000E31000E31000E34000E3A000E46000E4E000EB1000EB1000EB4000EBC",
      "000EC6000EC6000EC8000ECE000F18000F19000F35000F35000F37000F37000F39000F39000F71000F7E000F80000F84",
      "000F86000F87000F8D000F97000F99000FBC000FC6000FC600102D00103000103200103700103900103A00103D00103E",
      "00105800105900105E00106000107100107400108200108200108500108600108D00108D00109D00109D0010FC0010FC",
      "00135D00135F0017120017140017320017330017520017530017720017730017B40017B50017B70017BD0017C60017C6",
      "0017C90017D30017D70017D70017DD0017DD00180B00180F0018430018430018850018860018A90018A9001920001922",
      "00192700192800193200193200193900193B001A17001A18001A1B001A1B001A56001A56001A58001A5E001A60001A60",
      "001A62001A62001A65001A6C001A73001A7C001A7F001A7F001AA7001AA7001AB0001ACE001B00001B03001B34001B34",
      "001B36001B3A001B3C001B3C001B42001B42001B6B001B73001B80001B81001BA2001BA5001BA8001BA9001BAB001BAD",
      "001BE6001BE6001BE8001BE9001BED001BED001BEF001BF1001C2C001C33001C36001C37001C78001C7D001CD0001CD2",
      "001CD4001CE0001CE2001CE8001CED001CED001CF4001CF4001CF8001CF9001D2C001D6A001D78001D78001D9B001DFF",
      "001FBD001FBD001FBF001FC1001FCD001FCF001FDD001FDF001FED001FEF001FFD001FFE00200B00200F002018002019",
      "00202400202400202700202700202A00202E00206000206400206600206F00207100207100207F00207F00209000209C",
      "0020D00020F0002C7C002C7D002CEF002CF1002D6F002D6F002D7F002D7F002DE0002DFF002E2F002E2F003005003005",
      "00302A00302D00303100303500303B00303B00309900309E0030FC0030FE00A01500A01500A4F800A4FD00A60C00A60C",
      "00A66F00A67200A67400A67D00A67F00A67F00A69C00A69F00A6F000A6F100A70000A72100A77000A77000A78800A78A",
      "00A7F200A7F400A7F800A7F900A80200A80200A80600A80600A80B00A80B00A82500A82600A82C00A82C00A8C400A8C5",
      "00A8E000A8F100A8FF00A8FF00A92600A92D00A94700A95100A98000A98200A9B300A9B300A9B600A9B900A9BC00A9BD",
      "00A9CF00A9CF00A9E500A9E600AA2900AA2E00AA3100AA3200AA3500AA3600AA4300AA4300AA4C00AA4C00AA7000AA70",
      "00AA7C00AA7C00AAB000AAB000AAB200AAB400AAB700AAB800AABE00AABF00AAC100AAC100AADD00AADD00AAEC00AAED",
      "00AAF300AAF400AAF600AAF600AB5B00AB5F00AB6900AB6B00ABE500ABE500ABE800ABE800ABED00ABED00FB1E00FB1E",
      "00FBB200FBC200FE0000FE0F00FE1300FE1300FE2000FE2F00FE5200FE5200FE5500FE5500FEFF00FEFF00FF0700FF07",
      "00FF0E00FF0E00FF1A00FF1A00FF3E00FF3E00FF4000FF4000FF7000FF7000FF9E00FF9F00FFE300FFE300FFF900FFFB",
      "0101FD0101FD0102E00102E001037601037A0107800107850107870107B00107B20107BA010A01010A03010A05010A06",
      "010A0C010A0F010A38010A3A010A3F010A3F010AE5010AE6010D24010D27010EAB010EAC010EFD010EFF010F46010F50",
      "010F82010F8501100101100101103801104601107001107001107301107401107F0110810110B30110B60110B90110BA",
      "0110BD0110BD0110C20110C20110CD0110CD01110001110201112701112B01112D011134011173011173011180011181",
      "0111B60111BE0111C90111CC0111CF0111CF01122F01123101123401123401123601123701123E01123E011241011241",
      "0112DF0112DF0112E30112EA01130001130101133B01133C01134001134001136601136C01137001137401143801143F",
      "01144201144401144601144601145E01145E0114B30114B80114BA0114BA0114BF0114C00114C20114C30115B20115B5",
      "0115BC0115BD0115BF0115C00115DC0115DD01163301163A01163D01163D01163F0116400116AB0116AB0116AD0116AD",
      "0116B00116B50116B70116B701171D01171F01172201172501172701172B01182F01183701183901183A01193B01193C",
      "01193E01193E0119430119430119D40119D70119DA0119DB0119E00119E0011A01011A0A011A33011A38011A3B011A3E",
      "011A47011A47011A51011A56011A59011A5B011A8A011A96011A98011A99011C30011C36011C38011C3D011C3F011C3F",
      "011C92011CA7011CAA011CB0011CB2011CB3011CB5011CB6011D31011D36011D3A011D3A011D3C011D3D011D3F011D45",
      "011D47011D47011D90011D91011D95011D95011D97011D97011EF3011EF4011F00011F01011F36011F3A011F40011F40",
      "011F42011F42013430013440013447013455016AF0016AF4016B30016B36016B40016B43016F4F016F4F016F8F016F9F",
      "016FE0016FE1016FE3016FE401AFF001AFF301AFF501AFFB01AFFD01AFFE01BC9D01BC9E01BCA001BCA301CF0001CF2D",
      "01CF3001CF4601D16701D16901D17301D18201D18501D18B01D1AA01D1AD01D24201D24401DA0001DA3601DA3B01DA6C",
      "01DA7501DA7501DA8401DA8401DA9B01DA9F01DAA101DAAF01E00001E00601E00801E01801E01B01E02101E02301E024",
      "01E02601E02A01E03001E06D01E08F01E08F01E13001E13D01E2AE01E2AE01E2EC01E2EF01E4EB01E4EF01E8D001E8D6",
      "01E94401E94B01F3FB01F3FF0E00010E00010E00200E007F0E01000E01EF"] },
  { names := ["cased"]
    ranges := String.join [
      "00004100005A00006100007A0000AA0000AA0000B50000B50000BA0000BA0000C00000D60000D80000F60000F80001BA",
      "0001BC0001BF0001C40002930002950002B80002C00002C10002E00002E4000345000345000370000373000376000377",
      "00037A00037D00037F00037F00038600038600038800038A00038C00038C00038E0003A10003A30003F50003F7000481",
      "00048A00052F0005310005560005600005880010A00010C50010C70010C70010CD0010CD0010D00010FA0010FC0010FF",
      "0013A00013F50013F80013FD001C80001C88001C90001CBA001CBD001CBF001D00001DBF001E00001F15001F18001F1D",
      "001F20001F45001F48001F4D001F50001F57001F59001F59001F5B001F5B001F5D001F5D001F5F001F7D001F80001FB4",
      "001FB6001FBC001FBE001FBE001FC2001FC4001FC6001FCC001FD0001FD3001FD6001FDB001FE0001FEC001FF2001FF4",
      "001FF6001FFC00207100207100207F00207F00209000209C00210200210200210700210700210A002113002115002115",
      "00211900211D00212400212400212600212600212800212800212A00212D00212F00213400213900213900213C00213F",
      "00214500214900214E00214E00216000217F0021830021840024B60024E9002C00002CE4002CEB002CEE002CF2002CF3",
      "002D00002D25002D27002D27002D2D002D2D00A64000A66D00A68000A69D00A72200A78700A78B00A78E00A79000A7CA",
      "00A7D000A7D100A7D300A7D300A7D500A7D900A7F200A7F600A7F800A7FA00AB3000AB5A00AB5C00AB6900AB7000ABBF",
      "00FB0000FB0600FB1300FB1700FF2100FF3A00FF4100FF5A01040001044F0104B00104D30104D80104FB01057001057A",
      "01057C01058A01058C0105920105940105950105970105A10105A30105B10105B30105B90105BB0105BC010780010780",
      "0107830107850107870107B00107B20107BA010C80010CB2010CC0010CF20118A00118DF016E40016E7F01D40001D454",
      "01D45601D49C01D49E01D49F01D4A201D4A201D4A501D4A601D4A901D4AC01D4AE01D4B901D4BB01D4BB01D4BD01D4C3",
      "01D4C501D50501D50701D50A01D50D01D51401D51601D51C01D51E01D53901D53B01D53E01D54001D54401D54601D546",
      "01D54A01D55001D55201D6A501D6A801D6C001D6C201D6DA01D6DC01D6FA01D6FC01D71401D71601D73401D73601D74E",
      "01D75001D76E01D77001D78801D78A01D7A801D7AA01D7C201D7C401D7CB01DF0001DF0901DF0B01DF1E01DF2501DF2A",
      "01E03001E06D01E90001E94301F13001F14901F15001F16901F17001F189"] },
  { names := ["cwcf", "changeswhencasefolded"]
    ranges := String.join [
      "00004100005A0000B50000B50000C00000D60000D80000DF000100000100000102000102000104000104000106000106",
      "00010800010800010A00010A00010C00010C00010E00010E000110000110000112000112000114000114000116000116",
      "00011800011800011A00011A00011C00011C00011E00011E000120000120000122000122000124000124000126000126",
      "00012800012800012A00012A00012C00012C00012E00012E000130000130000132000132000134000134000136000136",
      "00013900013900013B00013B00013D00013D00013F00013F000141000141000143000143000145000145000147000147",
      "00014900014A00014C00014C00014E00014E000150000150000152000152000154000154000156000156000158000158",
      "00015A00015A00015C00015C00015E00015E000160000160000162000162000164000164000166000166000168000168",
      "00016A00016A00016C00016C00016E00016E000170000170000172000172000174000174000176000176000178000179",
      "00017B00017B00017D00017D00017F00017F00018100018200018400018400018600018700018900018B00018E000191",
      "00019300019400019600019800019C00019D00019F0001A00001A20001A20001A40001A40001A60001A70001A90001A9",
      "0001AC0001AC0001AE0001AF0001B10001B30001B50001B50001B70001B80001BC0001BC0001C40001C50001C70001C8",
      "0001CA0001CB0001CD0001CD0001CF0001CF0001D10001D10001D30001D30001D50001D50001D70001D70001D90001D9",
      "0001DB0001DB0001DE0001DE0001E00001E00001E20001E20001E40001E40001E60001E60001E80001E80001EA0001EA",
      "0001EC0001EC0001EE0001EE0001F10001F20001F40001F40001F60001F80001FA0001FA0001FC0001FC0001FE0001FE",
      "00020000020000020200020200020400020400020600020600020800020800020A00020A00020C00020C00020E00020E",
      "00021000021000021200021200021400021400021600021600021800021800021A00021A00021C00021C00021E00021E",
      "00022000022000022200022200022400022400022600022600022800022800022A00022A00022C00022C00022E00022E",
      "00023000023000023200023200023A00023B00023D00023E00024100024100024300024600024800024800024A00024A",
      "00024C00024C00024E00024E00034500034500037000037000037200037200037600037600037F00037F000386000386",
      "00038800038A00038C00038C00038E00038F0003910003A10003A30003AB0003C20003C20003CF0003D10003D50003D6",
      "0003D80003D80003DA0003DA0003DC0003DC0003DE0003DE0003E00003E00003E20003E20003E40003E40003E60003E6",
      "0003E80003E80003EA0003EA0003EC0003EC0003EE0003EE0003F00003F10003F40003F50003F70003F70003F90003FA",
      "0003FD00042F00046000046000046200046200046400046400046600046600046800046800046A00046A00046C00046C",
      "00046E00046E00047000047000047200047200047400047400047600047600047800047800047A00047A00047C00047C",
      "00047E00047E00048000048000048A00048A00048C00048C00048E00048E000490000490000492000492000494000494",
      "00049600049600049800049800049A00049A00049C00049C00049E00049E0004A00004A00004A20004A20004A40004A4",
      "0004A60004A60004A80004A80004AA0004AA0004AC0004AC0004AE0004AE0004B00004B00004B20004B20004B40004B4",
      "0004B60004B60004B80004B80004BA0004BA0004BC0004BC0004BE0004BE0004C00004C10004C30004C30004C50004C5",
      "0004C70004C70004C90004C90004CB0004CB0004CD0004CD0004D00004D00004D20004D20004D40004D40004D60004D6",
      "0004D80004D80004DA0004DA0004DC0004DC0004DE0004DE0004E00004E00004E20004E20004E40004E40004E60004E6",
      "0004E80004E80004EA0004EA0004EC0004EC0004EE0004EE0004F00004F00004F20004F20004F40004F40004F60004F6",
      "0004F80004F80004FA0004FA0004FC0004FC0004FE0004FE000500000500000502000502000504000504000506000506",
      "00050800050800050A00050A00050C00050C00050E00050E000510000510000512000512000514000514000516000516",
      "00051800051800051A00051A00051C00051C00051E00051E000520000520000522000522000524000524000526000526",
      "00052800052800052A00052A00052C00052C00052E00052E0005310005560005870005870010A00010C50010C70010C7",
      "0010CD0010CD0013F80013FD001C80001C88001C90001CBA001CBD001CBF001E00001E00001E02001E02001E04001E04",
      "001E06001E06001E08001E08001E0A001E0A001E0C001E0C001E0E001E0E001E10001E10001E12001E12001E14001E14",
      "001E16001E16001E18001E18001E1A001E1A001E1C001E1C001E1E001E1E001E20001E20001E22001E22001E24001E24",
      "001E26001E26001E28001E28001E2A001E2A001E2C001E2C001E2E001E2E001E30001E30001E32001E32001E34001E34",
      "001E36001E36001E38001E38001E3A001E3A001E3C001E3C001E3E001E3E001E40001E40001E42001E42001E44001E44",
      "001E46001E46001E48001E48001E4A001E4A001E4C001E4C001E4E001E4E001E50001E50001E52001E52001E54001E54",
      "001E56001E56001E58001E58001E5A001E5A001E5C001E5C001E5E001E5E001E60001E60001E62001E62001E64001E64",
      "001E66001E66001E68001E68001E6A001E6A001E6C001E6C001E6E001E6E001E70001E70001E72001E72001E74001E74",
      "001E76001E76001E78001E78001E7A001E7A001E7C001E7C001E7E001E7E001E80001E80001E82001E82001E84001E84",
      "001E86001E86001E88001E88001E8A001E8A001E8C001E8C001E8E001E8E001E90001E90001E92001E92001E94001E94",
      "001E9A001E9B001E9E001E9E001EA0001EA0001EA2001EA2001EA4001EA4001EA6001EA6001EA8001EA8001EAA001EAA",
      "001EAC001EAC001EAE001EAE001EB0001EB0001EB2001EB2001EB4001EB4001EB6001EB6001EB8001EB8001EBA001EBA",
      "001EBC001EBC001EBE001EBE001EC0001EC0001EC2001EC2001EC4001EC4001EC6001EC6001EC8001EC8001ECA001ECA",
      "001ECC001ECC001ECE001ECE001ED0001ED0001ED2001ED2001ED4001ED4001ED6001ED6001ED8001ED8001EDA001EDA",
      "001EDC001EDC001EDE001EDE001EE0001EE0001EE2001EE2001EE4001EE4001EE6001EE6001EE8001EE8001EEA001EEA",
      "001EEC001EEC001EEE001EEE001EF0001EF0001EF2001EF2001EF4001EF4001EF6001EF6001EF8001EF8001EFA001EFA",
      "001EFC001EFC001EFE001EFE001F08001F0F001F18001F1D001F28001F2F001F38001F3F001F48001F4D001F59001F59",
      "001F5B001F5B001F5D001F5D001F5F001F5F001F68001F6F001F80001FAF001FB2001FB4001FB7001FBC001FC2001FC4",
      "001FC7001FCC001FD8001FDB001FE8001FEC001FF2001FF4001FF7001FFC00212600212600212A00212B002132002132",
      "00216000216F0021830021830024B60024CF002C00002C2F002C60002C60002C62002C64002C67002C67002C69002C69",
      "002C6B002C6B002C6D002C70002C72002C72002C75002C75002C7E002C80002C82002C82002C84002C84002C86002C86",
      "002C88002C88002C8A002C8A002C8C002C8C002C8E002C8E002C90002C90002C92002C92002C94002C94002C96002C96",
      "002C98002C98002C9A002C9A002C9C002C9C002C9E002C9E002CA0002CA0002CA2002CA2002CA4002CA4002CA6002CA6",
      "002CA8002CA8002CAA002CAA002CAC002CAC002CAE002CAE002CB0002CB0002CB2002CB2002CB4002CB4002CB6002CB6",
      "002CB8002CB8002CBA002CBA002CBC002CBC002CBE002CBE002CC0002CC0002CC2002CC2002CC4002CC4002CC6002CC6",
      "002CC8002CC8002CCA002CCA002CCC002CCC002CCE002CCE002CD0002CD0002CD2002CD2002CD4002CD4002CD6002CD6",
      "002CD8002CD8002CDA002CDA002CDC002CDC002CDE002CDE002CE0002CE0002CE2002CE2002CEB002CEB002CED002CED",
      "002CF2002CF200A64000A64000A64200A64200A64400A64400A64600A64600A64800A64800A64A00A64A00A64C00A64C",
      "00A64E00A64E00A65000A65000A65200A65200A65400A65400A65600A65600A65800A65800A65A00A65A00A65C00A65C",
      "00A65E00A65E00A66000A66000A66200A66200A66400A66400A66600A66600A66800A66800A66A00A66A00A66C00A66C",
      "00A68000A68000A68200A68200A68400A68400A68600A68600A68800A68800A68A00A68A00A68C00A68C00A68E00A68E",
      "00A69000A69000A69200A69200A69400A69400A69600A69600A69800A69800A69A00A69A00A72200A72200A72400A724",
      "00A72600A72600A72800A72800A72A00A72A00A72C00A72C00A72E00A72E00A73200A73200A73400A73400A73600A736",
      "00A73800A73800A73A00A73A00A73C00A73C00A73E00A73E00A74000A74000A74200A74200A74400A74400A74600A746",
      "00A74800A74800A74A00A74A00A74C00A74C00A74E00A74E00A75000A75000A75200A75200A75400A75400A75600A756",
      "00A75800A75800A75A00A75A00A75C00A75C00A75E00A75E00A76000A76000A76200A76200A76400A76400A76600A766",
      "00A76800A76800A76A00A76A00A76C00A76C00A76E00A76E00A77900A77900A77B00A77B00A77D00A77E00A78000A780",
      "00A78200A78200A78400A78400A78600A78600A78B00A78B00A78D00A78D00A79000A79000A79200A79200A79600A796",
      "00A79800A79800A79A00A79A00A79C00A79C00A79E00A79E00A7A000A7A000A7A200A7A200A7A400A7A400A7A600A7A6",
      "00A7A800A7A800A7AA00A7AE00A7B000A7B400A7B600A7B600A7B800A7B800A7BA00A7BA00A7BC00A7BC00A7BE00A7BE",
      "00A7C000A7C000A7C200A7C200A7C400A7C700A7C900A7C900A7D000A7D000A7D600A7D600A7D800A7D800A7F500A7F5",
      "00AB7000ABBF00FB0000FB0600FB1300FB1700FF2100FF3A0104000104270104B00104D301057001057A01057C01058A",
      "01058C010592010594010595010C80010CB20118A00118BF016E40016E5F01E90001E921"] },
  { names := ["cwcm", "changeswhencasemapped"]
    ranges := String.join [
      "00004100005A00006100007A0000B50000B50000C00000D60000D80000F60000F800013700013900018C00018E00019A",
      "00019C0001A90001AC0001B90001BC0001BD0001BF0001BF0001C400022000022200023300023A000254000256000257",
      "00025900025900025B00025C00026000026100026300026300026500026600026800026C00026F00026F000271000272",
      "00027500027500027D00027D00028000028000028200028300028700028C00029200029200029D00029E000345000345",
      "00037000037300037600037700037B00037D00037F00037F00038600038600038800038A00038C00038C00038E0003A1",
      "0003A30003D10003D50003F50003F70003FB0003FD00048100048A00052F0005310005560005610005870010A00010C5",
      "0010C70010C70010CD0010CD0010D00010FA0010FD0010FF0013A00013F50013F80013FD001C80001C88001C90001CBA",
      "001CBD001CBF001D79001D79001D7D001D7D001D8E001D8E001E00001E9B001E9E001E9E001EA0001F15001F18001F1D",
      "001F20001F45001F48001F4D001F50001F57001F59001F59001F5B001F5B001F5D001F5D001F5F001F7D001F80001FB4",
      "001FB6001FBC001FBE001FBE001FC2001FC4001FC6001FCC001FD0001FD3001FD6001FDB001FE0001FEC001FF2001FF4",
      "001FF6001FFC00212600212600212A00212B00213200213200214E00214E00216000217F0021830021840024B60024E9",
      "002C00002C70002C72002C73002C75002C76002C7E002CE3002CEB002CEE002CF2002CF3002D00002D25002D27002D27",
      "002D2D002D2D00A64000A66D00A68000A69B00A72200A72F00A73200A76F00A77900A78700A78B00A78D00A79000A794",
      "00A79600A7AE00A7B000A7CA00A7D000A7D100A7D600A7D900A7F500A7F600AB5300AB5300AB7000ABBF00FB0000FB06",
      "00FB1300FB1700FF2100FF3A00FF4100FF5A01040001044F0104B00104D30104D80104FB01057001057A01057C01058A",
      "01058C0105920105940105950105970105A10105A30105B10105B30105B90105BB0105BC010C80010CB2010CC0010CF2",
      "0118A00118DF016E40016E7F01E90001E943"] },
  { names := ["cwl", "changeswhenlowercased"]
    ranges := String.join [
      "00004100005A0000C00000D60000D80000DE000100000100000102000102000104000104000106000106000108000108",
      "00010A00010A00010C00010C00010E00010E000110000110000112000112000114000114000116000116000118000118",
      "00011A00011A00011C00011C00011E00011E000120000120000122000122000124000124000126000126000128000128",
      "00012A00012A00012C00012C00012E00012E000130000130000132000132000134000134000136000136000139000139",
      "00013B00013B00013D00013D00013F00013F00014100014100014300014300014500014500014700014700014A00014A",
      "00014C00014C00014E00014E00015000015000015200015200015400015400015600015600015800015800015A00015A",
      "00015C00015C00015E00015E00016000016000016200016200016400016400016600016600016800016800016A00016A",
      "00016C00016C00016E00016E00017000017000017200017200017400017400017600017600017800017900017B00017B",
      "00017D00017D00018100018200018400018400018600018700018900018B00018E000191000193000194000196000198",
      "00019C00019D00019F0001A00001A20001A20001A40001A40001A60001A70001A90001A90001AC0001AC0001AE0001AF",
      "0001B10001B30001B50001B50001B70001B80001BC0001BC0001C40001C50001C70001C80001CA0001CB0001CD0001CD",
      "0001CF0001CF0001D10001D10001D30001D30001D50001D50001D70001D70001D90001D90001DB0001DB0001DE0001DE",
      "0001E00001E00001E20001E20001E40001E40001E60001E60001E80001E80001EA0001EA0001EC0001EC0001EE0001EE",
      "0001F10001F20001F40001F40001F60001F80001FA0001FA0001FC0001FC0001FE0001FE000200000200000202000202",
      "00020400020400020600020600020800020800020A00020A00020C00020C00020E00020E000210000210000212000212",
      "00021400021400021600021600021800021800021A00021A00021C00021C00021E00021E000220000220000222000222",
      "00022400022400022600022600022800022800022A00022A00022C00022C00022E00022E000230000230000232000232",
      "00023A00023B00023D00023E00024100024100024300024600024800024800024A00024A00024C00024C00024E00024E",
      "00037000037000037200037200037600037600037F00037F00038600038600038800038A00038C00038C00038E00038F",
      "0003910003A10003A30003AB0003CF0003CF0003D80003D80003DA0003DA0003DC0003DC0003DE0003DE0003E00003E0",
      "0003E20003E20003E40003E40003E60003E60003E80003E80003EA0003EA0003EC0003EC0003EE0003EE0003F40003F4",
      "0003F70003F70003F90003FA0003FD00042F000460000460000462000462000464000464000466000466000468000468",
      "00046A00046A00046C00046C00046E00046E000470000470000472000472000474000474000476000476000478000478",
      "00047A00047A00047C00047C00047E00047E00048000048000048A00048A00048C00048C00048E00048E000490000490",
      "00049200049200049400049400049600049600049800049800049A00049A00049C00049C00049E00049E0004A00004A0",
      "0004A20004A20004A40004A40004A60004A60004A80004A80004AA0004AA0004AC0004AC0004AE0004AE0004B00004B0",
      "0004B20004B20004B40004B40004B60004B60004B80004B80004BA0004BA0004BC0004BC0004BE0004BE0004C00004C1",
      "0004C30004C30004C50004C50004C70004C70004C90004C90004CB0004CB0004CD0004CD0004D00004D00004D20004D2",
      "0004D40004D40004D60004D60004D80004D80004DA0004DA0004DC0004DC0004DE0004DE0004E00004E00004E20004E2",
      "0004E40004E40004E60004E60004E80004E80004EA0004EA0004EC0004EC0004EE0004EE0004F00004F00004F20004F2",
      "0004F40004F40004F60004F60004F80004F80004FA0004FA0004FC0004FC0004FE0004FE000500000500000502000502",
      "00050400050400050600050600050800050800050A00050A00050C00050C00050E00050E000510000510000512000512",
      "00051400051400051600051600051800051800051A00051A00051C00051C00051E00051E000520000520000522000522",
      "00052400052400052600052600052800052800052A00052A00052C00052C00052E00052E0005310005560010A00010C5",
      "0010C70010C70010CD0010CD0013A00013F5001C90001CBA001CBD001CBF001E00001E00001E02001E02001E04001E04",
      "001E06001E06001E08001E08001E0A001E0A001E0C001E0C001E0E001E0E001E10001E10001E12001E12001E14001E14",
      "001E16001E16001E18001E18001E1A001E1A001E1C001E1C001E1E001E1E001E20001E20001E22001E22001E24001E24",
      "001E26001E26001E28001E28001E2A001E2A001E2C001E2C001E2E001E2E001E30001E30001E32001E32001E34001E34",
      "001E36001E36001E38001E38001E3A001E3A001E3C001E3C001E3E001E3E001E40001E40001E42001E42001E44001E44",
      "001E46001E46001E48001E48001E4A001E4A001E4C001E4C001E4E001E4E001E50001E50001E52001E52001E54001E54",
      "001E56001E56001E58001E58001E5A001E5A001E5C001E5C001E5E001E5E001E60001E60001E62001E62001E64001E64",
      "001E66001E66001E68001E68001E6A001E6A001E6C001E6C001E6E001E6E001E70001E70001E72001E72001E74001E74",
      "001E76001E76001E78001E78001E7A001E7A001E7C001E7C001E7E001E7E001E80001E80001E82001E82001E84001E84",
      "001E86001E86001E88001E88001E8A001E8A001E8C001E8C001E8E001E8E001E90001E90001E92001E92001E94001E94",
      "001E9E001E9E001EA0001EA0001EA2001EA2001EA4001EA4001EA6001EA6001EA8001EA8001EAA001EAA001EAC001EAC",
      "001EAE001EAE001EB0001EB0001EB2001EB2001EB4001EB4001EB6001EB6001EB8001EB8001EBA001EBA001EBC001EBC",
      "001EBE001EBE001EC0001EC0001EC2001EC2001EC4001EC4001EC6001EC6001EC8001EC8001ECA001ECA001ECC001ECC",
      "001ECE001ECE001ED0001ED0001ED2001ED2001ED4001ED4001ED6001ED6001ED8001ED8001EDA001EDA001EDC001EDC",
      "001EDE001EDE001EE0001EE0001EE2001EE2001EE4001EE4001EE6001EE6001EE8001EE8001EEA001EEA001EEC001EEC",
      "001EEE001EEE001EF0001EF0001EF2001EF2001EF4001EF4001EF6001EF6001EF8001EF8001EFA001EFA001EFC001EFC",
      "001EFE001EFE001F08001F0F001F18001F1D001F28001F2F001F38001F3F001F48001F4D001F59001F59001F5B001F5B",
      "001F5D001F5D001F5F001F5F001F68001F6F001F88001F8F001F98001F9F001FA8001FAF001FB8001FBC001FC8001FCC",
      "001FD8001FDB001FE8001FEC001FF8001FFC00212600212600212A00212B00213200213200216000216F002183002183",
      "0024B60024CF002C00002C2F002C60002C60002C62002C64002C67002C67002C69002C69002C6B002C6B002C6D002C70",
      "002C72002C72002C75002C75002C7E002C80002C82002C82002C84002C84002C86002C86002C88002C88002C8A002C8A",
      "002C8C002C8C002C8E002C8E002C90002C90002C92002C92002C94002C94002C96002C96002C98002C98002C9A002C9A",
      "002C9C002C9C002C9E002C9E002CA0002CA0002CA2002CA2002CA4002CA4002CA6002CA6002CA8002CA8002CAA002CAA",
      "002CAC002CAC002CAE002CAE002CB0002CB0002CB2002CB2002CB4002CB4002CB6002CB6002CB8002CB8002CBA002CBA",
      "002CBC002CBC002CBE002CBE002CC0002CC0002CC2002CC2002CC4002CC4002CC6002CC6002CC8002CC8002CCA002CCA",
      "002CCC002CCC002CCE002CCE002CD0002CD0002CD2002CD2002CD4002CD4002CD6002CD6002CD8002CD8002CDA002CDA",
      "002CDC002CDC002CDE002CDE002CE0002CE0002CE2002CE2002CEB002CEB002CED002CED002CF2002CF200A64000A640",
      "00A64200A64200A64400A64400A64600A64600A64800A64800A64A00A64A00A64C00A64C00A64E00A64E00A65000A650",
      "00A65200A65200A65400A65400A65600A65600A65800A65800A65A00A65A00A65C00A65C00A65E00A65E00A66000A660",
      "00A66200A66200A66400A66400A66600A66600A66800A66800A66A00A66A00A66C00A66C00A68000A68000A68200A682",
      "00A68400A68400A68600A68600A68800A68800A68A00A68A00A68C00A68C00A68E00A68E00A69000A69000A69200A692",
      "00A69400A69400A69600A69600A69800A69800A69A00A69A00A72200A72200A72400A72400A72600A72600A72800A728",
      "00A72A00A72A00A72C00A72C00A72E00A72E00A73200A73200A73400A73400A73600A73600A73800A73800A73A00A73A",
      "00A73C00A73C00A73E00A73E00A74000A74000A74200A74200A74400A74400A74600A74600A74800A74800A74A00A74A",
      "00A74C00A74C00A74E00A74E00A75000A75000A75200A75200A75400A75400A75600A75600A75800A75800A75A00A75A",
      "00A75C00A75C00A75E00A75E00A76000A76000A76200A76200A76400A76400A76600A76600A76800A76800A76A00A76A",
      "00A76C00A76C00A76E00A76E00A77900A77900A77B00A77B00A77D00A77E00A78000A78000A78200A78200A78400A784",
      "00A78600A78600A78B00A78B00A78D00A78D00A79000A79000A79200A79200A79600A79600A79800A79800A79A00A79A",
      "00A79C00A79C00A79E00A79E00A7A000A7A000A7A200A7A200A7A400A7A400A7A600A7A600A7A800A7A800A7AA00A7AE",
      "00A7B000A7B400A7B600A7B600A7B800A7B800A7BA00A7BA00A7BC00A7BC00A7BE00A7BE00A7C000A7C000A7C200A7C2",
      "00A7C400A7C700A7C900A7C900A7D000A7D000A7D600A7D600A7D800A7D800A7F500A7F500FF2100FF3A010400010427",
      "0104B00104D301057001057A01057C01058A01058C010592010594010595010C80010CB20118A00118BF016E40016E5F",
      "01E90001E921"] },
  { names := ["cwt", "changeswhentitlecased"]
    ranges := String.join [
      "00006100007A0000B50000B50000DF0000F60000F80000FF000101000101000103000103000105000105000107000107",
      "00010900010900010B00010B00010D00010D00010F00010F000111000111000113000113000115000115000117000117",
      "00011900011900011B00011B00011D00011D00011F00011F000121000121000123000123000125000125000127000127",
      "00012900012900012B00012B00012D00012D00012F00012F000131000131000133000133000135000135000137000137",
      "00013A00013A00013C00013C00013E00013E000140000140000142000142000144000144000146000146000148000149",
      "00014B00014B00014D00014D00014F00014F000151000151000153000153000155000155000157000157000159000159",
      "00015B00015B00015D00015D00015F00015F000161000161000163000163000165000165000167000167000169000169",
      "00016B00016B00016D00016D00016F00016F00017100017100017300017300017500017500017700017700017A00017A",
      "00017C00017C00017E00018000018300018300018500018500018800018800018C00018C000192000192000195000195",
      "00019900019A00019E00019E0001A10001A10001A30001A30001A50001A50001A80001A80001AD0001AD0001B00001B0",
      "0001B40001B40001B60001B60001B90001B90001BD0001BD0001BF0001BF0001C40001C40001C60001C70001C90001CA",
      "0001CC0001CC0001CE0001CE0001D00001D00001D20001D20001D40001D40001D60001D60001D80001D80001DA0001DA",
      "0001DC0001DD0001DF0001DF0001E10001E10001E30001E30001E50001E50001E70001E70001E90001E90001EB0001EB",
      "0001ED0001ED0001EF0001F10001F30001F30001F50001F50001F90001F90001FB0001FB0001FD0001FD0001FF0001FF",
      "00020100020100020300020300020500020500020700020700020900020900020B00020B00020D00020D00020F00020F",
      "00021100021100021300021300021500021500021700021700021900021900021B00021B00021D00021D00021F00021F",
      "00022300022300022500022500022700022700022900022900022B00022B00022D00022D00022F00022F000231000231",
      "00023300023300023C00023C00023F00024000024200024200024700024700024900024900024B00024B00024D00024D",
      "00024F00025400025600025700025900025900025B00025C00026000026100026300026300026500026600026800026C",
      "00026F00026F00027100027200027500027500027D00027D00028000028000028200028300028700028C000292000292",
      "00029D00029E00034500034500037100037100037300037300037700037700037B00037D0003900003900003AC0003CE",
      "0003D00003D10003D50003D70003D90003D90003DB0003DB0003DD0003DD0003DF0003DF0003E10003E10003E30003E3",
      "0003E50003E50003E70003E70003E90003E90003EB0003EB0003ED0003ED0003EF0003F30003F50003F50003F80003F8",
      "0003FB0003FB00043000045F00046100046100046300046300046500046500046700046700046900046900046B00046B",
      "00046D00046D00046F00046F00047100047100047300047300047500047500047700047700047900047900047B00047B",
      "00047D00047D00047F00047F00048100048100048B00048B00048D00048D00048F00048F000491000491000493000493",
      "00049500049500049700049700049900049900049B00049B00049D00049D00049F00049F0004A10004A10004A30004A3",
      "0004A50004A50004A70004A70004A90004A90004AB0004AB0004AD0004AD0004AF0004AF0004B10004B10004B30004B3",
      "0004B50004B50004B70004B70004B90004B90004BB0004BB0004BD0004BD0004BF0004BF0004C20004C20004C40004C4",
      "0004C60004C60004C80004C80004CA0004CA0004CC0004CC0004CE0004CF0004D10004D10004D30004D30004D50004D5",
      "0004D70004D70004D90004D90004DB0004DB0004DD0004DD0004DF0004DF0004E10004E10004E30004E30004E50004E5",
      "0004E70004E70004E90004E90004EB0004EB0004ED0004ED0004EF0004EF0004F10004F10004F30004F30004F50004F5",
      "0004F70004F70004F90004F90004FB0004FB0004FD0004FD0004FF0004FF000501000501000503000503000505000505",
      "00050700050700050900050900050B00050B00050D00050D00050F00050F000511000511000513000513000515000515",
      "00051700051700051900051900051B00051B00051D00051D00051F00051F000521000521000523000523000525000525",
      "00052700052700052900052900052B00052B00052D00052D00052F00052F0005610005870013F80013FD001C80001C88",
      "001D79001D79001D7D001D7D001D8E001D8E001E01001E01001E03001E03001E05001E05001E07001E07001E09001E09",
      "001E0B001E0B001E0D001E0D001E0F001E0F001E11001E11001E13001E13001E15001E15001E17001E17001E19001E19",
      "001E1B001E1B001E1D001E1D001E1F001E1F001E21001E21001E23001E23001E25001E25001E27001E27001E29001E29",
      "001E2B001E2B001E2D001E2D001E2F001E2F001E31001E31001E33001E33001E35001E35001E37001E37001E39001E39",
      "001E3B001E3B001E3D001E3D001E3F001E3F001E41001E41001E43001E43001E45001E45001E47001E47001E49001E49",
      "001E4B001E4B001E4D001E4D001E4F001E4F001E51001E51001E53001E53001E55001E55001E57001E57001E59001E59",
      "001E5B001E5B001E5D001E5D001E5F001E5F001E61001E61001E63001E63001E65001E65001E67001E67001E69001E69",
      "001E6B001E6B001E6D001E6D001E6F001E6F001E71001E71001E73001E73001E75001E75001E77001E77001E79001E79",
      "001E7B001E7B001E7D001E7D001E7F001E7F001E81001E81001E83001E83001E85001E85001E87001E87001E89001E89",
      "001E8B001E8B001E8D001E8D001E8F001E8F001E91001E91001E93001E93001E95001E9B001EA1001EA1001EA3001EA3",
      "001EA5001EA5001EA7001EA7001EA9001EA9001EAB001EAB001EAD001EAD001EAF001EAF001EB1001EB1001EB3001EB3",
      "001EB5001EB5001EB7001EB7001EB9001EB9001EBB001EBB001EBD001EBD001EBF001EBF001EC1001EC1001EC3001EC3",
      "001EC5001EC5001EC7001EC7001EC9001EC9001ECB001ECB001ECD001ECD001ECF001ECF001ED1001ED1001ED3001ED3",
      "001ED5001ED5001ED7001ED7001ED9001ED9001EDB001EDB001EDD001EDD001EDF001EDF001EE1001EE1001EE3001EE3",
      "001EE5001EE5001EE7001EE7001EE9001EE9001EEB001EEB001EED001EED001EEF001EEF001EF1001EF1001EF3001EF3",
      "001EF5001EF5001EF7001EF7001EF9001EF9001EFB001EFB001EFD001EFD001EFF001F07001F10001F15001F20001F27",
      "001F30001F37001F40001F45001F50001F57001F60001F67001F70001F7D001F80001F87001F90001F97001FA0001FA7",
      "001FB0001FB4001FB6001FB7001FBE001FBE001FC2001FC4001FC6001FC7001FD0001FD3001FD6001FD7001FE0001FE7",
      "001FF2001FF4001FF6001FF700214E00214E00217000217F0021840021840024D00024E9002C30002C5F002C61002C61",
      "002C65002C66002C68002C68002C6A002C6A002C6C002C6C002C73002C73002C76002C76002C81002C81002C83002C83",
      "002C85002C85002C87002C87002C89002C89002C8B002C8B002C8D002C8D002C8F002C8F002C91002C91002C93002C93",
      "002C95002C95002C97002C97002C99002C99002C9B002C9B002C9D002C9D002C9F002C9F002CA1002CA1002CA3002CA3",
      "002CA5002CA5002CA7002CA7002CA9002CA9002CAB002CAB002CAD002CAD002CAF002CAF002CB1002CB1002CB3002CB3",
      "002CB5002CB5002CB7002CB7002CB9002CB9002CBB002CBB002CBD002CBD002CBF002CBF002CC1002CC1002CC3002CC3",
      "002CC5002CC5002CC7002CC7002CC9002CC9002CCB002CCB002CCD002CCD002CCF002CCF002CD1002CD1002CD3002CD3",
      "002CD5002CD5002CD7002CD7002CD9002CD9002CDB002CDB002CDD002CDD002CDF002CDF002CE1002CE1002CE3002CE3",
      "002CEC002CEC002CEE002CEE002CF3002CF3002D00002D25002D27002D27002D2D002D2D00A64100A64100A64300A643",
      "00A64500A64500A64700A64700A64900A64900A64B00A64B00A64D00A64D00A64F00A64F00A65100A65100A65300A653",
      "00A65500A65500A65700A65700A65900A65900A65B00A65B00A65D00A65D00A65F00A65F00A66100A66100A66300A663",
      "00A66500A66500A66700A66700A66900A66900A66B00A66B00A66D00A66D00A68100A68100A68300A68300A68500A685",
      "00A68700A68700A68900A68900A68B00A68B00A68D00A68D00A68F00A68F00A69100A69100A69300A69300A69500A695",
      "00A69700A69700A69900A69900A69B00A69B00A72300A72300A72500A72500A72700A72700A72900A72900A72B00A72B",
      "00A72D00A72D00A72F00A72F00A73300A73300A73500A73500A73700A73700A73900A73900A73B00A73B00A73D00A73D",
      "00A73F00A73F00A74100A74100A74300A74300A74500A74500A74700A74700A74900A74900A74B00A74B00A74D00A74D",
      "00A74F00A74F00A75100A75100A75300A75300A75500A75500A75700A75700A75900A75900A75B00A75B00A75D00A75D",
      "00A75F00A75F00A76100A76100A76300A76300A76500A76500A76700A76700A76900A76900A76B00A76B00A76D00A76D",
      "00A76F00A76F00A77A00A77A00A77C00A77C00A77F00A77F00A78100A78100A78300A78300A78500A78500A78700A787",
      "00A78C00A78C00A79100A79100A79300A79400A79700A79700A79900A79900A79B00A79B00A79D00A79D00A79F00A79F",
      "00A7A100A7A100A7A300A7A300A7A500A7A500A7A700A7A700A7A900A7A900A7B500A7B500A7B700A7B700A7B900A7B9",
      "00A7BB00A7BB00A7BD00A7BD00A7BF00A7BF00A7C100A7C100A7C300A7C300A7C800A7C800A7CA00A7CA00A7D100A7D1",
      "00A7D700A7D700A7D900A7D900A7F600A7F600AB5300AB5300AB7000ABBF00FB0000FB0600FB1300FB1700FF4100FF5A",
      "01042801044F0104D80104FB0105970105A10105A30105B10105B30105B90105BB0105BC010CC0010CF20118C00118DF",
      "016E60016E7F01E92201E943"] },
  { names := ["cwu", "changeswhenuppercased"]
    ranges := String.join [
      "00006100007A0000B50000B50000DF0000F60000F80000FF000101000101000103000103000105000105000107000107",
      "00010900010900010B00010B00010D00010D00010F00010F000111000111000113000113000115000115000117000117",
      "00011900011900011B00011B00011D00011D00011F00011F000121000121000123000123000125000125000127000127",
      "00012900012900012B00012B00012D00012D00012F00012F000131000131000133000133000135000135000137000137",
      "00013A00013A00013C00013C00013E00013E000140000140000142000142000144000144000146000146000148000149",
      "00014B00014B00014D00014D00014F00014F000151000151000153000153000155000155000157000157000159000159",
      "00015B00015B00015D00015D00015F00015F000161000161000163000163000165000165000167000167000169000169",
      "00016B00016B00016D00016D00016F00016F00017100017100017300017300017500017500017700017700017A00017A",
      "00017C00017C00017E00018000018300018300018500018500018800018800018C00018C000192000192000195000195",
      "00019900019A00019E00019E0001A10001A10001A30001A30001A50001A50001A80001A80001AD0001AD0001B00001B0",
      "0001B40001B40001B60001B60001B90001B90001BD0001BD0001BF0001BF0001C50001C60001C80001C90001CB0001CC",
      "0001CE0001CE0001D00001D00001D20001D20001D40001D40001D60001D60001D80001D80001DA0001DA0001DC0001DD",
      "0001DF0001DF0001E10001E10001E30001E30001E50001E50001E70001E70001E90001E90001EB0001EB0001ED0001ED",
      "0001EF0001F00001F20001F30001F50001F50001F90001F90001FB0001FB0001FD0001FD0001FF0001FF000201000201",
      "00020300020300020500020500020700020700020900020900020B00020B00020D00020D00020F00020F000211000211",
      "00021300021300021500021500021700021700021900021900021B00021B00021D00021D00021F00021F000223000223",
      "00022500022500022700022700022900022900022B00022B00022D00022D00022F00022F000231000231000233000233",
      "00023C00023C00023F00024000024200024200024700024700024900024900024B00024B00024D00024D00024F000254",
      "00025600025700025900025900025B00025C00026000026100026300026300026500026600026800026C00026F00026F",
      "00027100027200027500027500027D00027D00028000028000028200028300028700028C00029200029200029D00029E",
      "00034500034500037100037100037300037300037700037700037B00037D0003900003900003AC0003CE0003D00003D1",
      "0003D50003D70003D90003D90003DB0003DB0003DD0003DD0003DF0003DF0003E10003E10003E30003E30003E50003E5",
      "0003E70003E70003E90003E90003EB0003EB0003ED0003ED0003EF0003F30003F50003F50003F80003F80003FB0003FB",
      "00043000045F00046100046100046300046300046500046500046700046700046900046900046B00046B00046D00046D",
      "00046F00046F00047100047100047300047300047500047500047700047700047900047900047B00047B00047D00047D",
      "00047F00047F00048100048100048B00048B00048D00048D00048F00048F000491000491000493000493000495000495",
      "00049700049700049900049900049B00049B00049D00049D00049F00049F0004A10004A10004A30004A30004A50004A5",
      "0004A70004A70004A90004A90004AB0004AB0004AD0004AD0004AF0004AF0004B10004B10004B30004B30004B50004B5",
      "0004B70004B70004B90004B90004BB0004BB0004BD0004BD0004BF0004BF0004C20004C20004C40004C40004C60004C6",
      "0004C80004C80004CA0004CA0004CC0004CC0004CE0004CF0004D10004D10004D30004D30004D50004D50004D70004D7",
      "0004D90004D90004DB0004DB0004DD0004DD0004DF0004DF0004E10004E10004E30004E30004E50004E50004E70004E7",
      "0004E90004E90004EB0004EB0004ED0004ED0004EF0004EF0004F10004F10004F30004F30004F50004F50004F70004F7",
      "0004F90004F90004FB0004FB0004FD0004FD0004FF0004FF000501000501000503000503000505000505000507000507",
      "00050900050900050B00050B00050D00050D00050F00050F000511000511000513000513000515000515000517000517",
      "00051900051900051B00051B00051D00051D00051F00051F000521000521000523000523000525000525000527000527",
      "00052900052900052B00052B00052D00052D00052F00052F0005610005870010D00010FA0010FD0010FF0013F80013FD",
      "001C80001C88001D79001D79001D7D001D7D001D8E001D8E001E01001E01001E03001E03001E05001E05001E07001E07",
      "001E09001E09001E0B001E0B001E0D001E0D001E0F001E0F001E11001E11001E13001E13001E15001E15001E17001E17",
      "001E19001E19001E1B001E1B001E1D001E1D001E1F001E1F001E21001E21001E23001E23001E25001E25001E27001E27",
      "001E29001E29001E2B001E2B001E2D001E2D001E2F001E2F001E31001E31001E33001E33001E35001E35001E37001E37",
      "001E39001E39001E3B001E3B001E3D001E3D001E3F001E3F001E41001E41001E43001E43001E45001E45001E47001E47",
      "001E49001E49001E4B001E4B001E4D001E4D001E4F001E4F001E51001E51001E53001E53001E55001E55001E57001E57",
      "001E59001E59001E5B001E5B001E5D001E5D001E5F001E5F001E61001E61001E63001E63001E65001E65001E67001E67",
      "001E69001E69001E6B001E6B001E6D001E6D001E6F001E6F001E71001E71001E73001E73001E75001E75001E77001E77",
      "001E79001E79001E7B001E7B001E7D001E7D001E7F001E7F001E81001E81001E83001E83001E85001E85001E87001E87",
      "001E89001E89001E8B001E8B001E8D001E8D001E8F001E8F001E91001E91001E93001E93001E95001E9B001EA1001EA1",
      "001EA3001EA3001EA5001EA5001EA7001EA7001EA9001EA9001EAB001EAB001EAD001EAD001EAF001EAF001EB1001EB1",
      "001EB3001EB3001EB5001EB5001EB7001EB7001EB9001EB9001EBB001EBB001EBD001EBD001EBF001EBF001EC1001EC1",
      "001EC3001EC3001EC5001EC5001EC7001EC7001EC9001EC9001ECB001ECB001ECD001ECD001ECF001ECF001ED1001ED1",
      "001ED3001ED3001ED5001ED5001ED7001ED7001ED9001ED9001EDB001EDB001EDD001EDD001EDF001EDF001EE1001EE1",
      "001EE3001EE3001EE5001EE5001EE7001EE7001EE9001EE9001EEB001EEB001EED001EED001EEF001EEF001EF1001EF1",
      "001EF3001EF3001EF5001EF5001EF7001EF7001EF9001EF9001EFB001EFB001EFD001EFD001EFF001F07001F10001F15",
      "001F20001F27001F30001F37001F40001F45001F50001F57001F60001F67001F70001F7D001F80001FB4001FB6001FB7",
      "001FBC001FBC001FBE001FBE001FC2001FC4001FC6001FC7001FCC001FCC001FD0001FD3001FD6001FD7001FE0001FE7",
      "001FF2001FF4001FF6001FF7001FFC001FFC00214E00214E00217000217F0021840021840024D00024E9002C30002C5F",
      "002C61002C61002C65002C66002C68002C68002C6A002C6A002C6C002C6C002C73002C73002C76002C76002C81002C81",
      "002C83002C83002C85002C85002C87002C87002C89002C89002C8B002C8B002C8D002C8D002C8F002C8F002C91002C91",
      "002C93002C93002C95002C95002C97002C97002C99002C99002C9B002C9B002C9D002C9D002C9F002C9F002CA1002CA1",
      "002CA3002CA3002CA5002CA5002CA7002CA7002CA9002CA9002CAB002CAB002CAD002CAD002CAF002CAF002CB1002CB1",
      "002CB3002CB3002CB5002CB5002CB7002CB7002CB9002CB9002CBB002CBB002CBD002CBD002CBF002CBF002CC1002CC1",
      "002CC3002CC3002CC5002CC5002CC7002CC7002CC9002CC9002CCB002CCB002CCD002CCD002CCF002CCF002CD1002CD1",
      "002CD3002CD3002CD5002CD5002CD7002CD7002CD9002CD9002CDB002CDB002CDD002CDD002CDF002CDF002CE1002CE1",
      "002CE3002CE3002CEC002CEC002CEE002CEE002CF3002CF3002D00002D25002D27002D27002D2D002D2D00A64100A641",
      "00A64300A64300A64500A64500A64700A64700A64900A64900A64B00A64B00A64D00A64D00A64F00A64F00A65100A651",
      "00A65300A65300A65500A65500A65700A65700A65900A65900A65B00A65B00A65D00A65D00A65F00A65F00A66100A661",
      "00A66300A66300A66500A66500A66700A66700A66900A66900A66B00A66B00A66D00A66D00A68100A68100A68300A683",
      "00A68500A68500A68700A68700A68900A68900A68B00A68B00A68D00A68D00A68F00A68F00A69100A69100A69300A693",
      "00A69500A69500A69700A69700A69900A69900A69B00A69B00A72300A72300A72500A72500A72700A72700A72900A729",
      "00A72B00A72B00A72D00A72D00A72F00A72F00A73300A73300A73500A73500A73700A73700A73900A73900A73B00A73B",
      "00A73D00A73D00A73F00A73F00A74100A74100A74300A74300A74500A74500A74700A74700A74900A74900A74B00A74B",
      "00A74D00A74D00A74F00A74F00A75100A75100A75300A75300A75500A75500A75700A75700A75900A75900A75B00A75B",
      "00A75D00A75D00A75F00A75F00A76100A76100A76300A76300A76500A76500A76700A76700A76900A76900A76B00A76B",
      "00A76D00A76D00A76F00A76F00A77A00A77A00A77C00A77C00A77F00A77F00A78100A78100A78300A78300A78500A785",
      "00A78700A78700A78C00A78C00A79100A79100A79300A79400A79700A79700A79900A79900A79B00A79B00A79D00A79D",
      "00A79F00A79F00A7A100A7A100A7A300A7A300A7A500A7A500A7A700A7A700A7A900A7A900A7B500A7B500A7B700A7B7",
      "00A7B900A7B900A7BB00A7BB00A7BD00A7BD00A7BF00A7BF00A7C100A7C100A7C300A7C300A7C800A7C800A7CA00A7CA",
      "00A7D100A7D100A7D700A7D700A7D900A7D900A7F600A7F600AB5300AB5300AB7000ABBF00FB0000FB0600FB1300FB17",
      "00FF4100FF5A01042801044F0104D80104FB0105970105A10105A30105B10105B30105B90105BB0105BC010CC0010CF2",
      "0118C00118DF016E60016E7F01E92201E943"] },
  { names := ["dash"]
    ranges := String.join [
      "00002D00002D00058A00058A0005BE0005BE00140000140000180600180600201000201500205300205300207B00207B",
      "00208B00208B002212002212002E17002E17002E1A002E1A002E3A002E3B002E40002E40002E5D002E5D00301C00301C",
      "0030300030300030A00030A000FE3100FE3200FE5800FE5800FE6300FE6300FF0D00FF0D010EAD010EAD"] },
  { names := ["di", "defaultignorablecodepoint"]
    ranges := String.join [
      "0000AD0000AD00034F00034F00061C00061C00115F0011600017B40017B500180B00180F00200B00200F00202A00202E",
      "00206000206F00316400316400FE0000FE0F00FEFF00FEFF00FFA000FFA000FFF000FFF801BCA001BCA301D17301D17A",
      "0E00000E0FFF"] },
  { names := ["dep", "deprecated"]
    ranges := String.join [
      "000149000149000673000673000F77000F77000F79000F790017A30017A400206A00206F00232900232A0E00010E0001"] },
  { names := ["dia", "diacritic"]
    ranges := String.join [
      "00005E00005E0000600000600000A80000A80000AF0000AF0000B40000B40000B70000B80002B000034E000350000357",
      "00035D00036200037400037500037A00037A0003840003850004830004870005590005590005910005A10005A30005BD",
      "0005BF0005BF0005C10005C20005C40005C400064B0006520006570006580006DF0006E00006E50006E60006EA0006EC",
      "00073000074A0007A60007B00007EB0007F500081800081900089800089F0008C90008D20008E30008FE00093C00093C",
      "00094D00094D0009510009540009710009710009BC0009BC0009CD0009CD000A3C000A3C000A4D000A4D000ABC000ABC",
      "000ACD000ACD000AFD000AFF000B3C000B3C000B4D000B4D000B55000B55000BCD000BCD000C3C000C3C000C4D000C4D",
      "000CBC000CBC000CCD000CCD000D3B000D3C000D4D000D4D000DCA000DCA000E47000E4C000E4E000E4E000EBA000EBA",
      "000EC8000ECC000F18000F19000F35000F35000F37000F37000F39000F39000F3E000F3F000F82000F84000F86000F87",
      "000FC6000FC600103700103700103900103A00106300106400106900106D00108700108D00108F00108F00109A00109B",
      "00135D00135F0017140017150017C90017D30017DD0017DD00193900193B001A75001A7C001A7F001A7F001AB0001ABE",
      "001AC1001ACB001B34001B34001B44001B44001B6B001B73001BAA001BAB001C36001C37001C78001C7D001CD0001CE8",
      "001CED001CED001CF4001CF4001CF7001CF9001D2C001D6A001DC4001DCF001DF5001DFF001FBD001FBD001FBF001FC1",
      "001FCD001FCF001FDD001FDF001FED001FEF001FFD001FFE002CEF002CF1002E2F002E2F00302A00302F00309900309C",
      "0030FC0030FC00A66F00A66F00A67C00A67D00A67F00A67F00A69C00A69D00A6F000A6F100A70000A72100A78800A78A",
      "00A7F800A7F900A8C400A8C400A8E000A8F100A92B00A92E00A95300A95300A9B300A9B300A9C000A9C000A9E500A9E5",
      "00AA7B00AA7D00AABF00AAC200AAF600AAF600AB5B00AB5F00AB6900AB6B00ABEC00ABED00FB1E00FB1E00FE2000FE2F",
      "00FF3E00FF3E00FF4000FF4000FF7000FF7000FF9E00FF9F00FFE300FFE30102E00102E00107800107850107870107B0",
      "0107B20107BA010AE5010AE6010D22010D27010EFD010EFF010F46010F50010F82010F85011046011046011070011070",
      "0110B90110BA0111330111340111730111730111C00111C00111CA0111CC0112350112360112E90112EA01133C01133C",
      "01134D01134D01136601136C0113700113740114420114420114460114460114C20114C30115BF0115C001163F01163F",
      "0116B60116B701172B01172B01183901183A01193D01193E0119430119430119E00119E0011A34011A34011A47011A47",
      "011A99011A99011C3F011C3F011D42011D42011D44011D45011D97011D97013447013455016AF0016AF4016B30016B36",
      "016F8F016F9F016FF0016FF101AFF001AFF301AFF501AFFB01AFFD01AFFE01CF0001CF2D01CF3001CF4601D16701D169",
      "01D16D01D17201D17B01D18201D18501D18B01D1AA01D1AD01E03001E06D01E13001E13601E2AE01E2AE01E2EC01E2EF",
      "01E8D001E8D601E94401E94601E94801E94A"] },
  { names := ["emoji"]
    ranges := String.join [
      "00002300002300002A00002A0000300000390000A90000A90000AE0000AE00203C00203C002049002049002122002122",
      "0021390021390021940021990021A90021AA00231A00231B0023280023280023CF0023CF0023E90023F30023F80023FA",
      "0024C20024C20025AA0025AB0025B60025B60025C00025C00025FB0025FE00260000260400260E00260E002611002611",
      "00261400261500261800261800261D00261D00262000262000262200262300262600262600262A00262A00262E00262F",
      "00263800263A00264000264000264200264200264800265300265F002660002663002663002665002666002668002668",
      "00267B00267B00267E00267F00269200269700269900269900269B00269C0026A00026A10026A70026A70026AA0026AB",
      "0026B00026B10026BD0026BE0026C40026C50026C80026C80026CE0026CF0026D10026D10026D30026D40026E90026EA",
      "0026F00026F50026F70026FA0026FD0026FD00270200270200270500270500270800270D00270F00270F002712002712",
      "00271400271400271600271600271D00271D002721002721002728002728002733002734002744002744002747002747",
      "00274C00274C00274E00274E0027530027550027570027570027630027640027950027970027A10027A10027B00027B0",
      "0027BF0027BF002934002935002B05002B07002B1B002B1C002B50002B50002B55002B5500303000303000303D00303D",
      "00329700329700329900329901F00401F00401F0CF01F0CF01F17001F17101F17E01F17F01F18E01F18E01F19101F19A",
      "01F1E601F1FF01F20101F20201F21A01F21A01F22F01F22F01F23201F23A01F25001F25101F30001F32101F32401F393",
      "01F39601F39701F39901F39B01F39E01F3F001F3F301F3F501F3F701F4FD01F4FF01F53D01F54901F54E01F55001F567",
      "01F56F01F57001F57301F57A01F58701F58701F58A01F58D01F59001F59001F59501F59601F5A401F5A501F5A801F5A8",
      "01F5B101F5B201F5BC01F5BC01F5C201F5C401F5D101F5D301F5DC01F5DE01F5E101F5E101F5E301F5E301F5E801F5E8",
      "01F5EF01F5EF01F5F301F5F301F5FA01F64F01F68001F6C501F6CB01F6D201F6D501F6D701F6DC01F6E501F6E901F6E9",
      "01F6EB01F6EC01F6F001F6F001F6F301F6FC01F7E001F7EB01F7F001F7F001F90C01F93A01F93C01F94501F94701F9FF",
      "01FA7001FA7C01FA8001FA8801FA9001FABD01FABF01FAC501FACE01FADB01FAE001FAE801FAF001FAF8"] },
  { names := ["ecomp", "emojicomponent"]
    ranges := String.join [
      "00002300002300002A00002A00003000003900200D00200D0020E30020E300FE0F00FE0F01F1E601F1FF01F3FB01F3FF",
      "01F9B001F9B30E00200E007F"] },
  { names := ["emod", "emojimodifier"]
    ranges := String.join [
      "01F3FB01F3FF"] },
  { names := ["ebase", "emojimodifierbase"]
    ranges := String.join [
      "00261D00261D0026F90026F900270A00270D01F38501F38501F3C201F3C401F3C701F3C701F3CA01F3CC01F44201F443",
      "01F44601F45001F46601F47801F47C01F47C01F48101F48301F48501F48701F48F01F48F01F49101F49101F4AA01F4AA",
      "01F57401F57501F57A01F57A01F59001F59001F59501F59601F64501F64701F64B01F64F01F6A301F6A301F6B401F6B6",
      "01F6C001F6C001F6CC01F6CC01F90C01F90C01F90F01F90F01F91801F91F01F92601F92601F93001F93901F93C01F93E",
      "01F97701F97701F9B501F9B601F9B801F9B901F9BB01F9BB01F9CD01F9CF01F9D101F9DD01FAC301FAC501FAF001FAF8"] },
  { names := ["epres", "emojipresentation"]
    ranges := String.join [
      "00231A00231B0023E90023EC0023F00023F00023F30023F30025FD0025FE00261400261500264800265300267F00267F",
      "0026930026930026A10026A10026AA0026AB0026BD0026BE0026C40026C50026CE0026CE0026D40026D40026EA0026EA",
      "0026F20026F30026F50026F50026FA0026FA0026FD0026FD00270500270500270A00270B00272800272800274C00274C",
      "00274E00274E0027530027550027570027570027950027970027B00027B00027BF0027BF002B1B002B1C002B50002B50",
      "002B55002B5501F00401F00401F0CF01F0CF01F18E01F18E01F19101F19A01F1E601F1FF01F20101F20101F21A01F21A",
      "01F22F01F22F01F23201F23601F23801F23A01F25001F25101F30001F32001F32D01F33501F33701F37C01F37E01F393",
      "01F3A001F3CA01F3CF01F3D301F3E001F3F001F3F401F3F401F3F801F43E01F44001F44001F44201F4FC01F4FF01F53D",
      "01F54B01F54E01F55001F56701F57A01F57A01F59501F59601F5A401F5A401F5FB01F64F01F68001F6C501F6CC01F6CC",
      "01F6D001F6D201F6D501F6D701F6DC01F6DF01F6EB01F6EC01F6F401F6FC01F7E001F7EB01F7F001F7F001F90C01F93A",
      "01F93C01F94501F94701F9FF01FA7001FA7C01FA8001FA8801FA9001FABD01FABF01FAC501FACE01FADB01FAE001FAE8",
      "01FAF001FAF8"] },
  { names := ["extpict", "extendedpictographic"]
    ranges := String.join [
      "0000A90000A90000AE0000AE00203C00203C0020490020490021220021220021390021390021940021990021A90021AA",
      "00231A00231B0023280023280023880023880023CF0023CF0023E90023F30023F80023FA0024C20024C20025AA0025AB",
      "0025B60025B60025C00025C00025FB0025FE002600002605002607002612002614002685002690002705002708002712",
      "00271400271400271600271600271D00271D002721002721002728002728002733002734002744002744002747002747",
      "00274C00274C00274E00274E0027530027550027570027570027630027670027950027970027A10027A10027B00027B0",
      "0027BF0027BF002934002935002B05002B07002B1B002B1C002B50002B50002B55002B5500303000303000303D00303D",
      "00329700329700329900329901F00001F0FF01F10D01F10F01F12F01F12F01F16C01F17101F17E01F17F01F18E01F18E",
      "01F19101F19A01F1AD01F1E501F20101F20F01F21A01F21A01F22F01F22F01F23201F23A01F23C01F23F01F24901F3FA",
      "01F40001F53D01F54601F64F01F68001F6FF01F77401F77F01F7D501F7FF01F80C01F80F01F84801F84F01F85A01F85F",
      "01F88801F88F01F8AE01F8FF01F90C01F93A01F93C01F94501F94701FAFF01FC0001FFFD"] },
  { names := ["ext", "extender"]
    ranges := String.join [
      "0000B70000B70002D00002D10006400006400007FA0007FA000B55000B55000E46000E46000EC6000EC600180A00180A",
      "001843001843001AA7001AA7001C36001C36001C7B001C7B00300500300500303100303500309D00309E0030FC0030FE",
      "00A01500A01500A60C00A60C00A9CF00A9CF00A9E600A9E600AA7000AA7000AADD00AADD00AAF300AAF400FF7000FF70",
      "01078101078201135D01135D0115C60115C8011A98011A98016B42016B43016FE0016FE1016FE3016FE301E13C01E13D",
      "01E94401E946"] },
  { names := ["grbase", "graphemebase"]
    ranges := String.join [
      "00002000007E0000A00000AC0000AE0002FF00037000037700037A00037F00038400038A00038C00038C00038E0003A1",
      "0003A300048200048A00052F00053100055600055900058A00058D00058F0005BE0005BE0005C00005C00005C30005C3",
      "0005C60005C60005D00005EA0005EF0005F400060600060F00061B00061B00061D00064A00066000066F0006710006D5",
      "0006DE0006DE0006E50006E60006E90006E90006EE00070D00071000071000071200072F00074D0007A50007B10007B1",
      "0007C00007EA0007F40007FA0007FE00081500081A00081A00082400082400082800082800083000083E000840000858",
      "00085E00085E00086000086A00087000088E0008A00008C900090300093900093B00093B00093D00094000094900094C",
      "00094E00095000095800096100096400098000098200098300098500098C00098F0009900009930009A80009AA0009B0",
      "0009B20009B20009B60009B90009BD0009BD0009BF0009C00009C70009C80009CB0009CC0009CE0009CE0009DC0009DD",
      "0009DF0009E10009E60009FD000A03000A03000A05000A0A000A0F000A10000A13000A28000A2A000A30000A32000A33",
      "000A35000A36000A38000A39000A3E000A40000A59000A5C000A5E000A5E000A66000A6F000A72000A74000A76000A76",
      "000A83000A83000A85000A8D000A8F000A91000A93000AA8000AAA000AB0000AB2000AB3000AB5000AB9000ABD000AC0",
      "000AC9000AC9000ACB000ACC000AD0000AD0000AE0000AE1000AE6000AF1000AF9000AF9000B02000B03000B05000B0C",
      "000B0F000B10000B13000B28000B2A000B30000B32000B33000B35000B39000B3D000B3D000B40000B40000B47000B48",
      "000B4B000B4C000B5C000B5D000B5F000B61000B66000B77000B83000B83000B85000B8A000B8E000B90000B92000B95",
      "000B99000B9A000B9C000B9C000B9E000B9F000BA3000BA4000BA8000BAA000BAE000BB9000BBF000BBF000BC1000BC2",
      "000BC6000BC8000BCA000BCC000BD0000BD0000BE6000BFA000C01000C03000C05000C0C000C0E000C10000C12000C28",
      "000C2A000C39000C3D000C3D000C41000C44000C58000C5A000C5D000C5D000C60000C61000C66000C6F000C77000C80",
      "000C82000C8C000C8E000C90000C92000CA8000CAA000CB3000CB5000CB9000CBD000CBE000CC0000CC1000CC3000CC4",
      "000CC7000CC8000CCA000CCB000CDD000CDE000CE0000CE1000CE6000CEF000CF1000CF3000D02000D0C000D0E000D10",
      "000D12000D3A000D3D000D3D000D3F000D40000D46000D48000D4A000D4C000D4E000D4F000D54000D56000D58000D61",
      "000D66000D7F000D82000D83000D85000D96000D9A000DB1000DB3000DBB000DBD000DBD000DC0000DC6000DD0000DD1",
      "000DD8000DDE000DE6000DEF000DF2000DF4000E01000E30000E32000E33000E3F000E46000E4F000E5B000E81000E82",
      "000E84000E84000E86000E8A000E8C000EA3000EA5000EA5000EA7000EB0000EB2000EB3000EBD000EBD000EC0000EC4",
      "000EC6000EC6000ED0000ED9000EDC000EDF000F00000F17000F1A000F34000F36000F36000F38000F38000F3A000F47",
      "000F49000F6C000F7F000F7F000F85000F85000F88000F8C000FBE000FC5000FC7000FCC000FCE000FDA00100000102C",
      "00103100103100103800103800103B00103C00103F00105700105A00105D001061001070001075001081001083001084",
      "00108700108C00108E00109C00109E0010C50010C70010C70010CD0010CD0010D000124800124A00124D001250001256",
      "00125800125800125A00125D00126000128800128A00128D0012900012B00012B20012B50012B80012BE0012C00012C0",
      "0012C20012C50012C80012D60012D800131000131200131500131800135A00136000137C0013800013990013A00013F5",
      "0013F80013FD00140000169C0016A00016F800170000171100171500171500171F001731001734001736001740001751",
      "00176000176C00176E0017700017800017B30017B60017B60017BE0017C50017C70017C80017D40017DC0017E00017E9",
      "0017F00017F900180000180A0018100018190018200018780018800018840018870018A80018AA0018AA0018B00018F5",
      "00190000191E00192300192600192900192B00193000193100193300193800194000194000194400196D001970001974",
      "0019800019AB0019B00019C90019D00019DA0019DE001A16001A19001A1A001A1E001A55001A57001A57001A61001A61",
      "001A63001A64001A6D001A72001A80001A89001A90001A99001AA0001AAD001B04001B33001B3B001B3B001B3D001B41",
      "001B43001B4C001B50001B6A001B74001B7E001B82001BA1001BA6001BA7001BAA001BAA001BAE001BE5001BE7001BE7",
      "001BEA001BEC001BEE001BEE001BF2001BF3001BFC001C2B001C34001C35001C3B001C49001C4D001C88001C90001CBA",
      "001CBD001CC7001CD3001CD3001CE1001CE1001CE9001CEC001CEE001CF3001CF5001CF7001CFA001CFA001D00001DBF",
      "001E00001F15001F18001F1D001F20001F45001F48001F4D001F50001F57001F59001F59001F5B001F5B001F5D001F5D",
      "001F5F001F7D001F80001FB4001FB6001FC4001FC6001FD3001FD6001FDB001FDD001FEF001FF2001FF4001FF6001FFE",
      "00200000200A00201000202700202F00205F00207000207100207400208E00209000209C0020A00020C000210000218B",
      "00219000242600244000244A002460002B73002B76002B95002B97002CEE002CF2002CF3002CF9002D25002D27002D27",
      "002D2D002D2D002D30002D67002D6F002D70002D80002D96002DA0002DA6002DA8002DAE002DB0002DB6002DB8002DBE",
      "002DC0002DC6002DC8002DCE002DD0002DD6002DD8002DDE002E00002E5D002E80002E99002E9B002EF3002F00002FD5",
      "002FF0002FFB00300000302900303000303F00304100309600309B0030FF00310500312F00313100318E0031900031E3",
      "0031F000321E00322000A48C00A49000A4C600A4D000A62B00A64000A66E00A67300A67300A67E00A69D00A6A000A6EF",
      "00A6F200A6F700A70000A7CA00A7D000A7D100A7D300A7D300A7D500A7D900A7F200A80100A80300A80500A80700A80A",
      "00A80C00A82400A82700A82B00A83000A83900A84000A87700A88000A8C300A8CE00A8D900A8F200A8FE00A90000A925",
      "00A92E00A94600A95200A95300A95F00A97C00A98300A9B200A9B400A9B500A9BA00A9BB00A9BE00A9CD00A9CF00A9D9",
      "00A9DE00A9E400A9E600A9FE00AA0000AA2800AA2F00AA3000AA3300AA3400AA4000AA4200AA4400AA4B00AA4D00AA4D",
      "00AA5000AA5900AA5C00AA7B00AA7D00AAAF00AAB100AAB100AAB500AAB600AAB900AABD00AAC000AAC000AAC200AAC2",
      "00AADB00AAEB00AAEE00AAF500AB0100AB0600AB0900AB0E00AB1100AB1600AB2000AB2600AB2800AB2E00AB3000AB6B",
      "00AB7000ABE400ABE600ABE700ABE900ABEC00ABF000ABF900AC0000D7A300D7B000D7C600D7CB00D7FB00F90000FA6D",
      "00FA7000FAD900FB0000FB0600FB1300FB1700FB1D00FB1D00FB1F00FB3600FB3800FB3C00FB3E00FB3E00FB4000FB41",
      "00FB4300FB4400FB4600FBC200FBD300FD8F00FD9200FDC700FDCF00FDCF00FDF000FDFF00FE1000FE1900FE3000FE52",
      "00FE5400FE6600FE6800FE6B00FE7000FE7400FE7600FEFC00FF0100FF9D00FFA000FFBE00FFC200FFC700FFCA00FFCF",
      "00FFD200FFD700FFDA00FFDC00FFE000FFE600FFE800FFEE00FFFC00FFFD01000001000B01000D01002601002801003A",
      "01003C01003D01003F01004D01005001005D0100800100FA01010001010201010701013301013701018E01019001019C",
      "0101A00101A00101D00101FC01028001029C0102A00102D00102E10102FB01030001032301032D01034A010350010375",
      "01038001039D01039F0103C30103C80103D501040001049D0104A00104A90104B00104D30104D80104FB010500010527",
      "01053001056301056F01057A01057C01058A01058C0105920105940105950105970105A10105A30105B10105B30105B9",
      "0105BB0105BC0106000107360107400107550107600107670107800107850107870107B00107B20107BA010800010805",
      "01080801080801080A01083501083701083801083C01083C01083F01085501085701089E0108A70108AF0108E00108F2",
      "0108F40108F50108FB01091B01091F01093901093F01093F0109800109B70109BC0109CF0109D2010A00010A10010A13",
      "010A15010A17010A19010A35010A40010A48010A50010A58010A60010A9F010AC0010AE4010AEB010AF6010B00010B35",
      "010B39010B55010B58010B72010B78010B91010B99010B9C010BA9010BAF010C00010C48010C80010CB2010CC0010CF2",
      "010CFA010D23010D30010D39010E60010E7E010E80010EA9010EAD010EAD010EB0010EB1010F00010F27010F30010F45",
      "010F51010F59010F70010F81010F86010F89010FB0010FCB010FE0010FF601100001100001100201103701104701104D",
      "01105201106F0110710110720110750110750110820110B20110B70110B80110BB0110BC0110BE0110C10110D00110E8",
      "0110F00110F901110301112601112C01112C0111360111470111500111720111740111760111820111B50111BF0111C8",
      "0111CD0111CE0111D00111DF0111E10111F401120001121101121301122E01123201123301123501123501123801123D",
      "01123F01124001128001128601128801128801128A01128D01128F01129D01129F0112A90112B00112DE0112E00112E2",
      "0112F00112F901130201130301130501130C01130F01131001131301132801132A011330011332011333011335011339",
      "01133D01133D01133F01133F01134101134401134701134801134B01134D01135001135001135D011363011400011437",
      "01144001144101144501144501144701145B01145D01145D01145F0114610114800114AF0114B10114B20114B90114B9",
      "0114BB0114BC0114BE0114BE0114C10114C10114C40114C70114D00114D90115800115AE0115B00115B10115B80115BB",
      "0115BE0115BE0115C10115DB01160001163201163B01163C01163E01163E01164101164401165001165901166001166C",
      "0116800116AA0116AC0116AC0116AE0116AF0116B60116B60116B80116B90116C00116C901170001171A011720011721",
      "01172601172601173001174601180001182E01183801183801183B01183B0118A00118F20118FF011906011909011909",
      "01190C01191301191501191601191801192F01193101193501193701193801193D01193D01193F011942011944011946",
      "0119500119590119A00119A70119AA0119D30119DC0119DF0119E10119E4011A00011A00011A0B011A32011A39011A3A",
      "011A3F011A46011A50011A50011A57011A58011A5C011A89011A97011A97011A9A011AA2011AB0011AF8011B00011B09",
      "011C00011C08011C0A011C2F011C3E011C3E011C40011C45011C50011C6C011C70011C8F011CA9011CA9011CB1011CB1",
      "011CB4011CB4011D00011D06011D08011D09011D0B011D30011D46011D46011D50011D59011D60011D65011D67011D68",
      "011D6A011D8E011D93011D94011D96011D96011D98011D98011DA0011DA9011EE0011EF2011EF5011EF8011F02011F10",
      "011F12011F35011F3E011F3F011F41011F41011F43011F59011FB0011FB0011FC0011FF1011FFF01239901240001246E",
      "012470012474012480012543012F90012FF201300001342F013441013446014400014646016800016A38016A40016A5E",
      "016A60016A69016A6E016ABE016AC0016AC9016AD0016AED016AF5016AF5016B00016B2F016B37016B45016B50016B59",
      "016B5B016B61016B63016B77016B7D016B8F016E40016E9A016F00016F4A016F50016F87016F93016F9F016FE0016FE3",
      "016FF0016FF10170000187F7018800018CD5018D00018D0801AFF001AFF301AFF501AFFB01AFFD01AFFE01B00001B122",
      "01B13201B13201B15001B15201B15501B15501B16401B16701B17001B2FB01BC0001BC6A01BC7001BC7C01BC8001BC88",
      "01BC9001BC9901BC9C01BC9C01BC9F01BC9F01CF5001CFC301D00001D0F501D10001D12601D12901D16401D16601D166",
      "01D16A01D16D01D18301D18401D18C01D1A901D1AE01D1EA01D20001D24101D24501D24501D2C001D2D301D2E001D2F3",
      "01D30001D35601D36001D37801D40001D45401D45601D49C01D49E01D49F01D4A201D4A201D4A501D4A601D4A901D4AC",
      "01D4AE01D4B901D4BB01D4BB01D4BD01D4C301D4C501D50501D50701D50A01D50D01D51401D51601D51C01D51E01D539",
      "01D53B01D53E01D54001D54401D54601D54601D54A01D55001D55201D6A501D6A801D7CB01D7CE01D9FF01DA3701DA3A",
      "01DA6D01DA7401DA7601DA8301DA8501DA8B01DF0001DF1E01DF2501DF2A01E03001E06D01E10001E12C01E13701E13D",
      "01E14001E14901E14E01E14F01E29001E2AD01E2C001E2EB01E2F001E2F901E2FF01E2FF01E4D001E4EB01E4F001E4F9",
      "01E7E001E7E601E7E801E7EB01E7ED01E7EE01E7F001E7FE01E80001E8C401E8C701E8CF01E90001E94301E94B01E94B",
      "01E95001E95901E95E01E95F01EC7101ECB401ED0101ED3D01EE0001EE0301EE0501EE1F01EE2101EE2201EE2401EE24",
      "01EE2701EE2701EE2901EE3201EE3401EE3701EE3901EE3901EE3B01EE3B01EE4201EE4201EE4701EE4701EE4901EE49",
      "01EE4B01EE4B01EE4D01EE4F01EE5101EE5201EE5401EE5401EE5701EE5701EE5901EE5901EE5B01EE5B01EE5D01EE5D",
      "01EE5F01EE5F01EE6101EE6201EE6401EE6401EE6701EE6A01EE6C01EE7201EE7401EE7701EE7901EE7C01EE7E01EE7E",
      "01EE8001EE8901EE8B01EE9B01EEA101EEA301EEA501EEA901EEAB01EEBB01EEF001EEF101F00001F02B01F03001F093",
      "01F0A001F0AE01F0B101F0BF01F0C101F0CF01F0D101F0F501F10001F1AD01F1E601F20201F21001F23B01F24001F248",
      "01F25001F25101F26001F26501F30001F6D701F6DC01F6EC01F6F001F6FC01F70001F77601F77B01F7D901F7E001F7EB",
      "01F7F001F7F001F80001F80B01F81001F84701F85001F85901F86001F88701F89001F8AD01F8B001F8B101F90001FA53",
      "01FA6001FA6D01FA7001FA7C01FA8001FA8801FA9001FABD01FABF01FAC501FACE01FADB01FAE001FAE801FAF001FAF8",
      "01FB0001FB9201FB9401FBCA01FBF001FBF902000002A6DF02A70002B73902B74002B81D02B82002CEA102CEB002EBE0",
      "02F80002FA1D03000003134A0313500323AF"] },
  { names := ["grext", "graphemeextend"]
    ranges := String.join [
      "00030000036F0004830004890005910005BD0005BF0005BF0005C10005C20005C40005C50005C70005C700061000061A",
      "00064B00065F0006700006700006D60006DC0006DF0006E40006E70006E80006EA0006ED00071100071100073000074A",
      "0007A60007B00007EB0007F30007FD0007FD00081600081900081B00082300082500082700082900082D00085900085B",
      "00089800089F0008CA0008E10008E300090200093A00093A00093C00093C00094100094800094D00094D000951000957",
      "0009620009630009810009810009BC0009BC0009BE0009BE0009C10009C40009CD0009CD0009D70009D70009E20009E3",
      "0009FE0009FE000A01000A02000A3C000A3C000A41000A42000A47000A48000A4B000A4D000A51000A51000A70000A71",
      "000A75000A75000A81000A82000ABC000ABC000AC1000AC5000AC7000AC8000ACD000ACD000AE2000AE3000AFA000AFF",
      "000B01000B01000B3C000B3C000B3E000B3F000B41000B44000B4D000B4D000B55000B57000B62000B63000B82000B82",
      "000BBE000BBE000BC0000BC0000BCD000BCD000BD7000BD7000C00000C00000C04000C04000C3C000C3C000C3E000C40",
      "000C46000C48000C4A000C4D000C55000C56000C62000C63000C81000C81000CBC000CBC000CBF000CBF000CC2000CC2",
      "000CC6000CC6000CCC000CCD000CD5000CD6000CE2000CE3000D00000D01000D3B000D3C000D3E000D3E000D41000D44",
      "000D4D000D4D000D57000D57000D62000D63000D81000D81000DCA000DCA000DCF000DCF000DD2000DD4000DD6000DD6",
      "000DDF000DDF000E31000E31000E34000E3A000E47000E4E000EB1000EB1000EB4000EBC000EC8000ECE000F18000F19",
      "000F35000F35000F37000F37000F39000F39000F71000F7E000F80000F84000F86000F87000F8D000F97000F99000FBC",
      "000FC6000FC600102D00103000103200103700103900103A00103D00103E00105800105900105E001060001071001074",
      "00108200108200108500108600108D00108D00109D00109D00135D00135F001712001714001732001733001752001753",
      "0017720017730017B40017B50017B70017BD0017C60017C60017C90017D30017DD0017DD00180B00180D00180F00180F",
      "0018850018860018A90018A900192000192200192700192800193200193200193900193B001A17001A18001A1B001A1B",
      "001A56001A56001A58001A5E001A60001A60001A62001A62001A65001A6C001A73001A7C001A7F001A7F001AB0001ACE",
      "001B00001B03001B34001B3A001B3C001B3C001B42001B42001B6B001B73001B80001B81001BA2001BA5001BA8001BA9",
      "001BAB001BAD001BE6001BE6001BE8001BE9001BED001BED001BEF001BF1001C2C001C33001C36001C37001CD0001CD2",
      "001CD4001CE0001CE2001CE8001CED001CED001CF4001CF4001CF8001CF9001DC0001DFF00200C00200C0020D00020F0",
      "002CEF002CF1002D7F002D7F002DE0002DFF00302A00302F00309900309A00A66F00A67200A67400A67D00A69E00A69F",
      "00A6F000A6F100A80200A80200A80600A80600A80B00A80B00A82500A82600A82C00A82C00A8C400A8C500A8E000A8F1",
      "00A8FF00A8FF00A92600A92D00A94700A95100A98000A98200A9B300A9B300A9B600A9B900A9BC00A9BD00A9E500A9E5",
      "00AA2900AA2E00AA3100AA3200AA3500AA3600AA4300AA4300AA4C00AA4C00AA7C00AA7C00AAB000AAB000AAB200AAB4",
      "00AAB700AAB800AABE00AABF00AAC100AAC100AAEC00AAED00AAF600AAF600ABE500ABE500ABE800ABE800ABED00ABED",
      "00FB1E00FB1E00FE0000FE0F00FE2000FE2F00FF9E00FF9F0101FD0101FD0102E00102E001037601037A010A01010A03",
      "010A05010A06010A0C010A0F010A38010A3A010A3F010A3F010AE5010AE6010D24010D27010EAB010EAC010EFD010EFF",
      "010F46010F50010F82010F8501100101100101103801104601107001107001107301107401107F0110810110B30110B6",
      "0110B90110BA0110C20110C201110001110201112701112B01112D0111340111730111730111800111810111B60111BE",
      "0111C90111CC0111CF0111CF01122F01123101123401123401123601123701123E01123E0112410112410112DF0112DF",
      "0112E30112EA01130001130101133B01133C01133E01133E01134001134001135701135701136601136C011370011374",
      "01143801143F01144201144401144601144601145E01145E0114B00114B00114B30114B80114BA0114BA0114BD0114BD",
      "0114BF0114C00114C20114C30115AF0115AF0115B20115B50115BC0115BD0115BF0115C00115DC0115DD01163301163A",
      "01163D01163D01163F0116400116AB0116AB0116AD0116AD0116B00116B50116B70116B701171D01171F011722011725",
      "01172701172B01182F01183701183901183A01193001193001193B01193C01193E01193E0119430119430119D40119D7",
      "0119DA0119DB0119E00119E0011A01011A0A011A33011A38011A3B011A3E011A47011A47011A51011A56011A59011A5B",
      "011A8A011A96011A98011A99011C30011C36011C38011C3D011C3F011C3F011C92011CA7011CAA011CB0011CB2011CB3",
      "011CB5011CB6011D31011D36011D3A011D3A011D3C011D3D011D3F011D45011D47011D47011D90011D91011D95011D95",
      "011D97011D97011EF3011EF4011F00011F01011F36011F3A011F40011F40011F42011F42013440013440013447013455",
      "016AF0016AF4016B30016B36016F4F016F4F016F8F016F92016FE4016FE401BC9D01BC9E01CF0001CF2D01CF3001CF46",
      "01D16501D16501D16701D16901D16E01D17201D17B01D18201D18501D18B01D1AA01D1AD01D24201D24401DA0001DA36",
      "01DA3B01DA6C01DA7501DA7501DA8401DA8401DA9B01DA9F01DAA101DAAF01E00001E00601E00801E01801E01B01E021",
      "01E02301E02401E02601E02A01E08F01E08F01E13001E13601E2AE01E2AE01E2EC01E2EF01E4EC01E4EF01E8D001E8D6",
      "01E94401E94A0E00200E007F0E01000E01EF"] },
  { names := ["hex", "hexdigit"]
    ranges := String.join [
      "00003000003900004100004600006100006600FF1000FF1900FF2100FF2600FF4100FF46"] },
  { names := ["idsb", "idsbinaryoperator"]
    ranges := String.join [
      "002FF0002FF1002FF4002FFB"] },
  { names := ["idst", "idstrinaryoperator"]
    ranges := String.join [
      "002FF2002FF3"] },
  { names := ["idc", "idcontinue"]
    ranges := String.join [
      "00003000003900004100005A00005F00005F00006100007A0000AA0000AA0000B50000B50000B70000B70000BA0000BA",
      "0000C00000D60000D80000F60000F80002C10002C60002D10002E00002E40002EC0002EC0002EE0002EE000300000374",
      "00037600037700037A00037D00037F00037F00038600038A00038C00038C00038E0003A10003A30003F50003F7000481",
      "00048300048700048A00052F0005310005560005590005590005600005880005910005BD0005BF0005BF0005C10005C2",
      "0005C40005C50005C70005C70005D00005EA0005EF0005F200061000061A00062000066900066E0006D30006D50006DC",
      "0006DF0006E80006EA0006FC0006FF0006FF00071000074A00074D0007B10007C00007F50007FA0007FA0007FD0007FD",
      "00080000082D00084000085B00086000086A00087000088700088900088E0008980008E10008E300096300096600096F",
      "00097100098300098500098C00098F0009900009930009A80009AA0009B00009B20009B20009B60009B90009BC0009C4",
      "0009C70009C80009CB0009CE0009D70009D70009DC0009DD0009DF0009E30009E60009F10009FC0009FC0009FE0009FE",
      "000A01000A03000A05000A0A000A0F000A10000A13000A28000A2A000A30000A32000A33000A35000A36000A38000A39",
      "000A3C000A3C000A3E000A42000A47000A48000A4B000A4D000A51000A51000A59000A5C000A5E000A5E000A66000A75",
      "000A81000A83000A85000A8D000A8F000A91000A93000AA8000AAA000AB0000AB2000AB3000AB5000AB9000ABC000AC5",
      "000AC7000AC9000ACB000ACD000AD0000AD0000AE0000AE3000AE6000AEF000AF9000AFF000B01000B03000B05000B0C",
      "000B0F000B10000B13000B28000B2A000B30000B32000B33000B35000B39000B3C000B44000B47000B48000B4B000B4D",
      "000B55000B57000B5C000B5D000B5F000B63000B66000B6F000B71000B71000B82000B83000B85000B8A000B8E000B90",
      "000B92000B95000B99000B9A000B9C000B9C000B9E000B9F000BA3000BA4000BA8000BAA000BAE000BB9000BBE000BC2",
      "000BC6000BC8000BCA000BCD000BD0000BD0000BD7000BD7000BE6000BEF000C00000C0C000C0E000C10000C12000C28",
      "000C2A000C39000C3C000C44000C46000C48000C4A000C4D000C55000C56000C58000C5A000C5D000C5D000C60000C63",
      "000C66000C6F000C80000C83000C85000C8C000C8E000C90000C92000CA8000CAA000CB3000CB5000CB9000CBC000CC4",
      "000CC6000CC8000CCA000CCD000CD5000CD6000CDD000CDE000CE0000CE3000CE6000CEF000CF1000CF3000D00000D0C",
      "000D0E000D10000D12000D44000D46000D48000D4A000D4E000D54000D57000D5F000D63000D66000D6F000D7A000D7F",
      "000D81000D83000D85000D96000D9A000DB1000DB3000DBB000DBD000DBD000DC0000DC6000DCA000DCA000DCF000DD4",
      "000DD6000DD6000DD8000DDF000DE6000DEF000DF2000DF3000E01000E3A000E40000E4E000E50000E59000E81000E82",
      "000E84000E84000E86000E8A000E8C000EA3000EA5000EA5000EA7000EBD000EC0000EC4000EC6000EC6000EC8000ECE",
      "000ED0000ED9000EDC000EDF000F00000F00000F18000F19000F20000F29000F35000F35000F37000F37000F39000F39",
      "000F3E000F47000F49000F6C000F71000F84000F86000F97000F99000FBC000FC6000FC600100000104900105000109D",
      "0010A00010C50010C70010C70010CD0010CD0010D00010FA0010FC00124800124A00124D001250001256001258001258",
      "00125A00125D00126000128800128A00128D0012900012B00012B20012B50012B80012BE0012C00012C00012C20012C5",
      "0012C80012D60012D800131000131200131500131800135A00135D00135F00136900137100138000138F0013A00013F5",
      "0013F80013FD00140100166C00166F00167F00168100169A0016A00016EA0016EE0016F800170000171500171F001734",
      "00174000175300176000176C00176E0017700017720017730017800017D30017D70017D70017DC0017DD0017E00017E9",
      "00180B00180D00180F0018190018200018780018800018AA0018B00018F500190000191E00192000192B00193000193B",
      "00194600196D0019700019740019800019AB0019B00019C90019D00019DA001A00001A1B001A20001A5E001A60001A7C",
      "001A7F001A89001A90001A99001AA7001AA7001AB0001ABD001ABF001ACE001B00001B4C001B50001B59001B6B001B73",
      "001B80001BF3001C00001C37001C40001C49001C4D001C7D001C80001C88001C90001CBA001CBD001CBF001CD0001CD2",
      "001CD4001CFA001D00001F15001F18001F1D001F20001F45001F48001F4D001F50001F57001F59001F59001F5B001F5B",
      "001F5D001F5D001F5F001F7D001F80001FB4001FB6001FBC001FBE001FBE001FC2001FC4001FC6001FCC001FD0001FD3",
      "001FD6001FDB001FE0001FEC001FF2001FF4001FF6001FFC00203F00204000205400205400207100207100207F00207F",
      "00209000209C0020D00020DC0020E10020E10020E50020F000210200210200210700210700210A002113002115002115",
      "00211800211D00212400212400212600212600212800212800212A00213900213C00213F00214500214900214E00214E",
      "002160002188002C00002CE4002CEB002CF3002D00002D25002D27002D27002D2D002D2D002D30002D67002D6F002D6F",
      "002D7F002D96002DA0002DA6002DA8002DAE002DB0002DB6002DB8002DBE002DC0002DC6002DC8002DCE002DD0002DD6",
      "002DD8002DDE002DE0002DFF00300500300700302100302F00303100303500303800303C00304100309600309900309F",
      "0030A10030FA0030FC0030FF00310500312F00313100318E0031A00031BF0031F00031FF003400004DBF004E0000A48C",
      "00A4D000A4FD00A50000A60C00A61000A62B00A64000A66F00A67400A67D00A67F00A6F100A71700A71F00A72200A788",
      "00A78B00A7CA00A7D000A7D100A7D300A7D300A7D500A7D900A7F200A82700A82C00A82C00A84000A87300A88000A8C5",
      "00A8D000A8D900A8E000A8F700A8FB00A8FB00A8FD00A92D00A93000A95300A96000A97C00A98000A9C000A9CF00A9D9",
      "00A9E000A9FE00AA0000AA3600AA4000AA4D00AA5000AA5900AA6000AA7600AA7A00AAC200AADB00AADD00AAE000AAEF",
      "00AAF200AAF600AB0100AB0600AB0900AB0E00AB1100AB1600AB2000AB2600AB2800AB2E00AB3000AB5A00AB5C00AB69",
      "00AB7000ABEA00ABEC00ABED00ABF000ABF900AC0000D7A300D7B000D7C600D7CB00D7FB00F90000FA6D00FA7000FAD9",
      "00FB0000FB0600FB1300FB1700FB1D00FB2800FB2A00FB3600FB3800FB3C00FB3E00FB3E00FB4000FB4100FB4300FB44",
      "00FB4600FBB100FBD300FD3D00FD5000FD8F00FD9200FDC700FDF000FDFB00FE0000FE0F00FE2000FE2F00FE3300FE34",
      "00FE4D00FE4F00FE7000FE7400FE7600FEFC00FF1000FF1900FF2100FF3A00FF3F00FF3F00FF4100FF5A00FF6600FFBE",
      "00FFC200FFC700FFCA00FFCF00FFD200FFD700FFDA00FFDC01000001000B01000D01002601002801003A01003C01003D",
      "01003F01004D01005001005D0100800100FA0101400101740101FD0101FD01028001029C0102A00102D00102E00102E0",
      "01030001031F01032D01034A01035001037A01038001039D0103A00103C30103C80103CF0103D10103D501040001049D",
      "0104A00104A90104B00104D30104D80104FB01050001052701053001056301057001057A01057C01058A01058C010592",
      "0105940105950105970105A10105A30105B10105B30105B90105BB0105BC010600010736010740010755010760010767",
      "0107800107850107870107B00107B20107BA01080001080501080801080801080A01083501083701083801083C01083C",
      "01083F01085501086001087601088001089E0108E00108F20108F40108F50109000109150109200109390109800109B7",
      "0109BE0109BF010A00010A03010A05010A06010A0C010A13010A15010A17010A19010A35010A38010A3A010A3F010A3F",
      "010A60010A7C010A80010A9C010AC0010AC7010AC9010AE6010B00010B35010B40010B55010B60010B72010B80010B91",
      "010C00010C48010C80010CB2010CC0010CF2010D00010D27010D30010D39010E80010EA9010EAB010EAC010EB0010EB1",
      "010EFD010F1C010F27010F27010F30010F50010F70010F85010FB0010FC4010FE0010FF6011000011046011066011075",
      "01107F0110BA0110C20110C20110D00110E80110F00110F901110001113401113601113F011144011147011150011173",
      "0111760111760111800111C40111C90111CC0111CE0111DA0111DC0111DC01120001121101121301123701123E011241",
      "01128001128601128801128801128A01128D01128F01129D01129F0112A80112B00112EA0112F00112F9011300011303",
      "01130501130C01130F01131001131301132801132A01133001133201133301133501133901133B011344011347011348",
      "01134B01134D01135001135001135701135701135D01136301136601136C01137001137401140001144A011450011459",
      "01145E0114610114800114C50114C70114C70114D00114D90115800115B50115B80115C00115D80115DD011600011640",
      "0116440116440116500116590116800116B80116C00116C901170001171A01171D01172B011730011739011740011746",
      "01180001183A0118A00118E90118FF01190601190901190901190C011913011915011916011918011935011937011938",
      "01193B0119430119500119590119A00119A70119AA0119D70119DA0119E10119E30119E4011A00011A3E011A47011A47",
      "011A50011A99011A9D011A9D011AB0011AF8011C00011C08011C0A011C36011C38011C40011C50011C59011C72011C8F",
      "011C92011CA7011CA9011CB6011D00011D06011D08011D09011D0B011D36011D3A011D3A011D3C011D3D011D3F011D47",
      "011D50011D59011D60011D65011D67011D68011D6A011D8E011D90011D91011D93011D98011DA0011DA9011EE0011EF6",
      "011F00011F10011F12011F3A011F3E011F42011F50011F59011FB0011FB001200001239901240001246E012480012543",
      "012F90012FF001300001342F013440013455014400014646016800016A38016A40016A5E016A60016A69016A70016ABE",
      "016AC0016AC9016AD0016AED016AF0016AF4016B00016B36016B40016B43016B50016B59016B63016B77016B7D016B8F",
      "016E40016E7F016F00016F4A016F4F016F87016F8F016F9F016FE0016FE1016FE3016FE4016FF0016FF10170000187F7",
      "018800018CD5018D00018D0801AFF001AFF301AFF501AFFB01AFFD01AFFE01B00001B12201B13201B13201B15001B152",
      "01B15501B15501B16401B16701B17001B2FB01BC0001BC6A01BC7001BC7C01BC8001BC8801BC9001BC9901BC9D01BC9E",
      "01CF0001CF2D01CF3001CF4601D16501D16901D16D01D17201D17B01D18201D18501D18B01D1AA01D1AD01D24201D244",
      "01D40001D45401D45601D49C01D49E01D49F01D4A201D4A201D4A501D4A601D4A901D4AC01D4AE01D4B901D4BB01D4BB",
      "01D4BD01D4C301D4C501D50501D50701D50A01D50D01D51401D51601D51C01D51E01D53901D53B01D53E01D54001D544",
      "01D54601D54601D54A01D55001D55201D6A501D6A801D6C001D6C201D6DA01D6DC01D6FA01D6FC01D71401D71601D734",
      "01D73601D74E01D75001D76E01D77001D78801D78A01D7A801D7AA01D7C201D7C401D7CB01D7CE01D7FF01DA0001DA36",
      "01DA3B01DA6C01DA7501DA7501DA8401DA8401DA9B01DA9F01DAA101DAAF01DF0001DF1E01DF2501DF2A01E00001E006",
      "01E00801E01801E01B01E02101E02301E02401E02601E02A01E03001E06D01E08F01E08F01E10001E12C01E13001E13D",
      "01E14001E14901E14E01E14E01E29001E2AE01E2C001E2F901E4D001E4F901E7E001E7E601E7E801E7EB01E7ED01E7EE",
      "01E7F001E7FE01E80001E8C401E8D001E8D601E90001E94B01E95001E95901EE0001EE0301EE0501EE1F01EE2101EE22",
      "01EE2401EE2401EE2701EE2701EE2901EE3201EE3401EE3701EE3901EE3901EE3B01EE3B01EE4201EE4201EE4701EE47",
      "01EE4901EE4901EE4B01EE4B01EE4D01EE4F01EE5101EE5201EE5401EE5401EE5701EE5701EE5901EE5901EE5B01EE5B",
      "01EE5D01EE5D01EE5F01EE5F01EE6101EE6201EE6401EE6401EE6701EE6A01EE6C01EE7201EE7401EE7701EE7901EE7C",
      "01EE7E01EE7E01EE8001EE8901EE8B01EE9B01EEA101EEA301EEA501EEA901EEAB01EEBB01FBF001FBF902000002A6DF",
      "02A70002B73902B74002B81D02B82002CEA102CEB002EBE002F80002FA1D03000003134A0313500323AF0E01000E01EF"] },
  { names := ["ids", "idstart"]
    ranges := String.join [
      "00004100005A00006100007A0000AA0000AA0000B50000B50000BA0000BA0000C00000D60000D80000F60000F80002C1",
      "0002C60002D10002E00002E40002EC0002EC0002EE0002EE00037000037400037600037700037A00037D00037F00037F",
      "00038600038600038800038A00038C00038C00038E0003A10003A30003F50003F700048100048A00052F000531000556",
      "0005590005590005600005880005D00005EA0005EF0005F200062000064A00066E00066F0006710006D30006D50006D5",
      "0006E50006E60006EE0006EF0006FA0006FC0006FF0006FF00071000071000071200072F00074D0007A50007B10007B1",
      "0007CA0007EA0007F40007F50007FA0007FA00080000081500081A00081A000824000824000828000828000840000858",
      "00086000086A00087000088700088900088E0008A00008C900090400093900093D00093D000950000950000958000961",
      "00097100098000098500098C00098F0009900009930009A80009AA0009B00009B20009B20009B60009B90009BD0009BD",
      "0009CE0009CE0009DC0009DD0009DF0009E10009F00009F10009FC0009FC000A05000A0A000A0F000A10000A13000A28",
      "000A2A000A30000A32000A33000A35000A36000A38000A39000A59000A5C000A5E000A5E000A72000A74000A85000A8D",
      "000A8F000A91000A93000AA8000AAA000AB0000AB2000AB3000AB5000AB9000ABD000ABD000AD0000AD0000AE0000AE1",
      "000AF9000AF9000B05000B0C000B0F000B10000B13000B28000B2A000B30000B32000B33000B35000B39000B3D000B3D",
      "000B5C000B5D000B5F000B61000B71000B71000B83000B83000B85000B8A000B8E000B90000B92000B95000B99000B9A",
      "000B9C000B9C000B9E000B9F000BA3000BA4000BA8000BAA000BAE000BB9000BD0000BD0000C05000C0C000C0E000C10",
      "000C12000C28000C2A000C39000C3D000C3D000C58000C5A000C5D000C5D000C60000C61000C80000C80000C85000C8C",
      "000C8E000C90000C92000CA8000CAA000CB3000CB5000CB9000CBD000CBD000CDD000CDE000CE0000CE1000CF1000CF2",
      "000D04000D0C000D0E000D10000D12000D3A000D3D000D3D000D4E000D4E000D54000D56000D5F000D61000D7A000D7F",
      "000D85000D96000D9A000DB1000DB3000DBB000DBD000DBD000DC0000DC6000E01000E30000E32000E33000E40000E46",
      "000E81000E82000E84000E84000E86000E8A000E8C000EA3000EA5000EA5000EA7000EB0000EB2000EB3000EBD000EBD",
      "000EC0000EC4000EC6000EC6000EDC000EDF000F00000F00000F40000F47000F49000F6C000F88000F8C00100000102A",
      "00103F00103F00105000105500105A00105D00106100106100106500106600106E00107000107500108100108E00108E",
      "0010A00010C50010C70010C70010CD0010CD0010D00010FA0010FC00124800124A00124D001250001256001258001258",
      "00125A00125D00126000128800128A00128D0012900012B00012B20012B50012B80012BE0012C00012C00012C20012C5",
      "0012C80012D60012D800131000131200131500131800135A00138000138F0013A00013F50013F80013FD00140100166C",
      "00166F00167F00168100169A0016A00016EA0016EE0016F800170000171100171F00173100174000175100176000176C",
      "00176E0017700017800017B30017D70017D70017DC0017DC0018200018780018800018A80018AA0018AA0018B00018F5",
      "00190000191E00195000196D0019700019740019800019AB0019B00019C9001A00001A16001A20001A54001AA7001AA7",
      "001B05001B33001B45001B4C001B83001BA0001BAE001BAF001BBA001BE5001C00001C23001C4D001C4F001C5A001C7D",
      "001C80001C88001C90001CBA001CBD001CBF001CE9001CEC001CEE001CF3001CF5001CF6001CFA001CFA001D00001DBF",
      "001E00001F15001F18001F1D001F20001F45001F48001F4D001F50001F57001F59001F59001F5B001F5B001F5D001F5D",
      "001F5F001F7D001F80001FB4001FB6001FBC001FBE001FBE001FC2001FC4001FC6001FCC001FD0001FD3001FD6001FDB",
      "001FE0001FEC001FF2001FF4001FF6001FFC00207100207100207F00207F00209000209C002102002102002107002107",
      "00210A00211300211500211500211800211D00212400212400212600212600212800212800212A00213900213C00213F",
      "00214500214900214E00214E002160002188002C00002CE4002CEB002CEE002CF2002CF3002D00002D25002D27002D27",
      "002D2D002D2D002D30002D67002D6F002D6F002D80002D96002DA0002DA6002DA8002DAE002DB0002DB6002DB8002DBE",
      "002DC0002DC6002DC8002DCE002DD0002DD6002DD8002DDE00300500300700302100302900303100303500303800303C",
      "00304100309600309B00309F0030A10030FA0030FC0030FF00310500312F00313100318E0031A00031BF0031F00031FF",
      "003400004DBF004E0000A48C00A4D000A4FD00A50000A60C00A61000A61F00A62A00A62B00A64000A66E00A67F00A69D",
      "00A6A000A6EF00A71700A71F00A72200A78800A78B00A7CA00A7D000A7D100A7D300A7D300A7D500A7D900A7F200A801",
      "00A80300A80500A80700A80A00A80C00A82200A84000A87300A88200A8B300A8F200A8F700A8FB00A8FB00A8FD00A8FE",
      "00A90A00A92500A93000A94600A96000A97C00A98400A9B200A9CF00A9CF00A9E000A9E400A9E600A9EF00A9FA00A9FE",
      "00AA0000AA2800AA4000AA4200AA4400AA4B00AA6000AA7600AA7A00AA7A00AA7E00AAAF00AAB100AAB100AAB500AAB6",
      "00AAB900AABD00AAC000AAC000AAC200AAC200AADB00AADD00AAE000AAEA00AAF200AAF400AB0100AB0600AB0900AB0E",
      "00AB1100AB1600AB2000AB2600AB2800AB2E00AB3000AB5A00AB5C00AB6900AB7000ABE200AC0000D7A300D7B000D7C6",
      "00D7CB00D7FB00F90000FA6D00FA7000FAD900FB0000FB0600FB1300FB1700FB1D00FB1D00FB1F00FB2800FB2A00FB36",
      "00FB3800FB3C00FB3E00FB3E00FB4000FB4100FB4300FB4400FB4600FBB100FBD300FD3D00FD5000FD8F00FD9200FDC7",
      "00FDF000FDFB00FE7000FE7400FE7600FEFC00FF2100FF3A00FF4100FF5A00FF6600FFBE00FFC200FFC700FFCA00FFCF",
      "00FFD200FFD700FFDA00FFDC01000001000B01000D01002601002801003A01003C01003D01003F01004D01005001005D",
      "0100800100FA01014001017401028001029C0102A00102D001030001031F01032D01034A01035001037501038001039D",
      "0103A00103C30103C80103CF0103D10103D501040001049D0104B00104D30104D80104FB010500010527010530010563",
      "01057001057A01057C01058A01058C0105920105940105950105970105A10105A30105B10105B30105B90105BB0105BC",
      "0106000107360107400107550107600107670107800107850107870107B00107B20107BA010800010805010808010808",
      "01080A01083501083701083801083C01083C01083F01085501086001087601088001089E0108E00108F20108F40108F5",
      "0109000109150109200109390109800109B70109BE0109BF010A00010A00010A10010A13010A15010A17010A19010A35",
      "010A60010A7C010A80010A9C010AC0010AC7010AC9010AE4010B00010B35010B40010B55010B60010B72010B80010B91",
      "010C00010C48010C80010CB2010CC0010CF2010D00010D23010E80010EA9010EB0010EB1010F00010F1C010F27010F27",
      "010F30010F45010F70010F81010FB0010FC4010FE0010FF60110030110370110710110720110750110750110830110AF",
      "0110D00110E80111030111260111440111440111470111470111500111720111760111760111830111B20111C10111C4",
      "0111DA0111DA0111DC0111DC01120001121101121301122B01123F01124001128001128601128801128801128A01128D",
      "01128F01129D01129F0112A80112B00112DE01130501130C01130F01131001131301132801132A011330011332011333",
      "01133501133901133D01133D01135001135001135D01136101140001143401144701144A01145F0114610114800114AF",
      "0114C40114C50114C70114C70115800115AE0115D80115DB01160001162F0116440116440116800116AA0116B80116B8",
      "01170001171A01174001174601180001182B0118A00118DF0118FF01190601190901190901190C011913011915011916",
      "01191801192F01193F01193F0119410119410119A00119A70119AA0119D00119E10119E10119E30119E3011A00011A00",
      "011A0B011A32011A3A011A3A011A50011A50011A5C011A89011A9D011A9D011AB0011AF8011C00011C08011C0A011C2E",
      "011C40011C40011C72011C8F011D00011D06011D08011D09011D0B011D30011D46011D46011D60011D65011D67011D68",
      "011D6A011D89011D98011D98011EE0011EF2011F02011F02011F04011F10011F12011F33011FB0011FB0012000012399",
      "01240001246E012480012543012F90012FF001300001342F013441013446014400014646016800016A38016A40016A5E",
      "016A70016ABE016AD0016AED016B00016B2F016B40016B43016B63016B77016B7D016B8F016E40016E7F016F00016F4A",
      "016F50016F50016F93016F9F016FE0016FE1016FE3016FE30170000187F7018800018CD5018D00018D0801AFF001AFF3",
      "01AFF501AFFB01AFFD01AFFE01B00001B12201B13201B13201B15001B15201B15501B15501B16401B16701B17001B2FB",
      "01BC0001BC6A01BC7001BC7C01BC8001BC8801BC9001BC9901D40001D45401D45601D49C01D49E01D49F01D4A201D4A2",
      "01D4A501D4A601D4A901D4AC01D4AE01D4B901D4BB01D4BB01D4BD01D4C301D4C501D50501D50701D50A01D50D01D514",
      "01D51601D51C01D51E01D53901D53B01D53E01D54001D54401D54601D54601D54A01D55001D55201D6A501D6A801D6C0",
      "01D6C201D6DA01D6DC01D6FA01D6FC01D71401D71601D73401D73601D74E01D75001D76E01D77001D78801D78A01D7A8",
      "01D7AA01D7C201D7C401D7CB01DF0001DF1E01DF2501DF2A01E03001E06D01E10001E12C01E13701E13D01E14E01E14E",
      "01E29001E2AD01E2C001E2EB01E4D001E4EB01E7E001E7E601E7E801E7EB01E7ED01E7EE01E7F001E7FE01E80001E8C4",
      "01E90001E94301E94B01E94B01EE0001EE0301EE0501EE1F01EE2101EE2201EE2401EE2401EE2701EE2701EE2901EE32",
      "01EE3401EE3701EE3901EE3901EE3B01EE3B01EE4201EE4201EE4701EE4701EE4901EE4901EE4B01EE4B01EE4D01EE4F",
      "01EE5101EE5201EE5401EE5401EE5701EE5701EE5901EE5901EE5B01EE5B01EE5D01EE5D01EE5F01EE5F01EE6101EE62",
      "01EE6401EE6401EE6701EE6A01EE6C01EE7201EE7401EE7701EE7901EE7C01EE7E01EE7E01EE8001EE8901EE8B01EE9B",
      "01EEA101EEA301EEA501EEA901EEAB01EEBB02000002A6DF02A70002B73902B74002B81D02B82002CEA102CEB002EBE0",
      "02F80002FA1D03000003134A0313500323AF"] },
  { names := ["ideo", "ideographic"]
    ranges := String.join [
      "00300600300700302100302900303800303A003400004DBF004E00009FFF00F90000FA6D00FA7000FAD9016FE4016FE4",
      "0170000187F7018800018CD5018D00018D0801B17001B2FB02000002A6DF02A70002B73902B74002B81D02B82002CEA1",
      "02CEB002EBE002F80002FA1D03000003134A0313500323AF"] },
  { names := ["joinc", "joincontrol"]
    ranges := String.join [
      "00200C00200D"] },
  { names := ["loe", "logicalorderexception"]
    ranges := String.join [
      "000E40000E44000EC0000EC40019B50019B70019BA0019BA00AAB500AAB600AAB900AAB900AABB00AABC"] },
  { names := ["lower", "lowercase"]
    ranges := String.join [
      "00006100007A0000AA0000AA0000B50000B50000BA0000BA0000DF0000F60000F80000FF000101000101000103000103",
      "00010500010500010700010700010900010900010B00010B00010D00010D00010F00010F000111000111000113000113",
      "00011500011500011700011700011900011900011B00011B00011D00011D00011F00011F000121000121000123000123",
      "00012500012500012700012700012900012900012B00012B00012D00012D00012F00012F000131000131000133000133",
      "00013500013500013700013800013A00013A00013C00013C00013E00013E000140000140000142000142000144000144",
      "00014600014600014800014900014B00014B00014D00014D00014F00014F000151000151000153000153000155000155",
      "00015700015700015900015900015B00015B00015D00015D00015F00015F000161000161000163000163000165000165",
      "00016700016700016900016900016B00016B00016D00016D00016F00016F000171000171000173000173000175000175",
      "00017700017700017A00017A00017C00017C00017E00018000018300018300018500018500018800018800018C00018D",
      "00019200019200019500019500019900019B00019E00019E0001A10001A10001A30001A30001A50001A50001A80001A8",
      "0001AA0001AB0001AD0001AD0001B00001B00001B40001B40001B60001B60001B90001BA0001BD0001BF0001C60001C6",
      "0001C90001C90001CC0001CC0001CE0001CE0001D00001D00001D20001D20001D40001D40001D60001D60001D80001D8",
      "0001DA0001DA0001DC0001DD0001DF0001DF0001E10001E10001E30001E30001E50001E50001E70001E70001E90001E9",
      "0001EB0001EB0001ED0001ED0001EF0001F00001F30001F30001F50001F50001F90001F90001FB0001FB0001FD0001FD",
      "0001FF0001FF00020100020100020300020300020500020500020700020700020900020900020B00020B00020D00020D",
      "00020F00020F00021100021100021300021300021500021500021700021700021900021900021B00021B00021D00021D",
      "00021F00021F00022100022100022300022300022500022500022700022700022900022900022B00022B00022D00022D",
      "00022F00022F00023100023100023300023900023C00023C00023F000240000242000242000247000247000249000249",
      "00024B00024B00024D00024D00024F0002930002950002B80002C00002C10002E00002E4000345000345000371000371",
      "00037300037300037700037700037A00037D0003900003900003AC0003CE0003D00003D10003D50003D70003D90003D9",
      "0003DB0003DB0003DD0003DD0003DF0003DF0003E10003E10003E30003E30003E50003E50003E70003E70003E90003E9",
      "0003EB0003EB0003ED0003ED0003EF0003F30003F50003F50003F80003F80003FB0003FC00043000045F000461000461",
      "00046300046300046500046500046700046700046900046900046B00046B00046D00046D00046F00046F000471000471",
      "00047300047300047500047500047700047700047900047900047B00047B00047D00047D00047F00047F000481000481",
      "00048B00048B00048D00048D00048F00048F000491000491000493000493000495000495000497000497000499000499",
      "00049B00049B00049D00049D00049F00049F0004A10004A10004A30004A30004A50004A50004A70004A70004A90004A9",
      "0004AB0004AB0004AD0004AD0004AF0004AF0004B10004B10004B30004B30004B50004B50004B70004B70004B90004B9",
      "0004BB0004BB0004BD0004BD0004BF0004BF0004C20004C20004C40004C40004C60004C60004C80004C80004CA0004CA",
      "0004CC0004CC0004CE0004CF0004D10004D10004D30004D30004D50004D50004D70004D70004D90004D90004DB0004DB",
      "0004DD0004DD0004DF0004DF0004E10004E10004E30004E30004E50004E50004E70004E70004E90004E90004EB0004EB",
      "0004ED0004ED0004EF0004EF0004F10004F10004F30004F30004F50004F50004F70004F70004F90004F90004FB0004FB",
      "0004FD0004FD0004FF0004FF00050100050100050300050300050500050500050700050700050900050900050B00050B",
      "00050D00050D00050F00050F00051100051100051300051300051500051500051700051700051900051900051B00051B",
      "00051D00051D00051F00051F00052100052100052300052300052500052500052700052700052900052900052B00052B",
      "00052D00052D00052F00052F0005600005880010D00010FA0010FC0010FF0013F80013FD001C80001C88001D00001DBF",
      "001E01001E01001E03001E03001E05001E05001E07001E07001E09001E09001E0B001E0B001E0D001E0D001E0F001E0F",
      "001E11001E11001E13001E13001E15001E15001E17001E17001E19001E19001E1B001E1B001E1D001E1D001E1F001E1F",
      "001E21001E21001E23001E23001E25001E25001E27001E27001E29001E29001E2B001E2B001E2D001E2D001E2F001E2F",
      "001E31001E31001E33001E33001E35001E35001E37001E37001E39001E39001E3B001E3B001E3D001E3D001E3F001E3F",
      "001E41001E41001E43001E43001E45001E45001E47001E47001E49001E49001E4B001E4B001E4D001E4D001E4F001E4F",
      "001E51001E51001E53001E53001E55001E55001E57001E57001E59001E59001E5B001E5B001E5D001E5D001E5F001E5F",
      "001E61001E61001E63001E63001E65001E65001E67001E67001E69001E69001E6B001E6B001E6D001E6D001E6F001E6F",
      "001E71001E71001E73001E73001E75001E75001E77001E77001E79001E79001E7B001E7B001E7D001E7D001E7F001E7F",
      "001E81001E81001E83001E83001E85001E85001E87001E87001E89001E89001E8B001E8B001E8D001E8D001E8F001E8F",
      "001E91001E91001E93001E93001E95001E9D001E9F001E9F001EA1001EA1001EA3001EA3001EA5001EA5001EA7001EA7",
      "001EA9001EA9001EAB001EAB001EAD001EAD001EAF001EAF001EB1001EB1001EB3001EB3001EB5001EB5001EB7001EB7",
      "001EB9001EB9001EBB001EBB001EBD001EBD001EBF001EBF001EC1001EC1001EC3001EC3001EC5001EC5001EC7001EC7",
      "001EC9001EC9001ECB001ECB001ECD001ECD001ECF001ECF001ED1001ED1001ED3001ED3001ED5001ED5001ED7001ED7",
      "001ED9001ED9001EDB001EDB001EDD001EDD001EDF001EDF001EE1001EE1001EE3001EE3001EE5001EE5001EE7001EE7",
      "001EE9001EE9001EEB001EEB001EED001EED001EEF001EEF001EF1001EF1001EF3001EF3001EF5001EF5001EF7001EF7",
      "001EF9001EF9001EFB001EFB001EFD001EFD001EFF001F07001F10001F15001F20001F27001F30001F37001F40001F45",
      "001F50001F57001F60001F67001F70001F7D001F80001F87001F90001F97001FA0001FA7001FB0001FB4001FB6001FB7",
      "001FBE001FBE001FC2001FC4001FC6001FC7001FD0001FD3001FD6001FD7001FE0001FE7001FF2001FF4001FF6001FF7",
      "00207100207100207F00207F00209000209C00210A00210A00210E00210F00211300211300212F00212F002134002134",
      "00213900213900213C00213D00214600214900214E00214E00217000217F0021840021840024D00024E9002C30002C5F",
      "002C61002C61002C65002C66002C68002C68002C6A002C6A002C6C002C6C002C71002C71002C73002C74002C76002C7D",
      "002C81002C81002C83002C83002C85002C85002C87002C87002C89002C89002C8B002C8B002C8D002C8D002C8F002C8F",
      "002C91002C91002C93002C93002C95002C95002C97002C97002C99002C99002C9B002C9B002C9D002C9D002C9F002C9F",
      "002CA1002CA1002CA3002CA3002CA5002CA5002CA7002CA7002CA9002CA9002CAB002CAB002CAD002CAD002CAF002CAF",
      "002CB1002CB1002CB3002CB3002CB5002CB5002CB7002CB7002CB9002CB9002CBB002CBB002CBD002CBD002CBF002CBF",
      "002CC1002CC1002CC3002CC3002CC5002CC5002CC7002CC7002CC9002CC9002CCB002CCB002CCD002CCD002CCF002CCF",
      "002CD1002CD1002CD3002CD3002CD5002CD5002CD7002CD7002CD9002CD9002CDB002CDB002CDD002CDD002CDF002CDF",
      "002CE1002CE1002CE3002CE4002CEC002CEC002CEE002CEE002CF3002CF3002D00002D25002D27002D27002D2D002D2D",
      "00A64100A64100A64300A64300A64500A64500A64700A64700A64900A64900A64B00A64B00A64D00A64D00A64F00A64F",
      "00A65100A65100A65300A65300A65500A65500A65700A65700A65900A65900A65B00A65B00A65D00A65D00A65F00A65F",
      "00A66100A66100A66300A66300A66500A66500A66700A66700A66900A66900A66B00A66B00A66D00A66D00A68100A681",
      "00A68300A68300A68500A68500A68700A68700A68900A68900A68B00A68B00A68D00A68D00A68F00A68F00A69100A691",
      "00A69300A69300A69500A69500A69700A69700A69900A69900A69B00A69D00A72300A72300A72500A72500A72700A727",
      "00A72900A72900A72B00A72B00A72D00A72D00A72F00A73100A73300A73300A73500A73500A73700A73700A73900A739",
      "00A73B00A73B00A73D00A73D00A73F00A73F00A74100A74100A74300A74300A74500A74500A74700A74700A74900A749",
      "00A74B00A74B00A74D00A74D00A74F00A74F00A75100A75100A75300A75300A75500A75500A75700A75700A75900A759",
      "00A75B00A75B00A75D00A75D00A75F00A75F00A76100A76100A76300A76300A76500A76500A76700A76700A76900A769",
      "00A76B00A76B00A76D00A76D00A76F00A77800A77A00A77A00A77C00A77C00A77F00A77F00A78100A78100A78300A783",
      "00A78500A78500A78700A78700A78C00A78C00A78E00A78E00A79100A79100A79300A79500A79700A79700A79900A799",
      "00A79B00A79B00A79D00A79D00A79F00A79F00A7A100A7A100A7A300A7A300A7A500A7A500A7A700A7A700A7A900A7A9",
      "00A7AF00A7AF00A7B500A7B500A7B700A7B700A7B900A7B900A7BB00A7BB00A7BD00A7BD00A7BF00A7BF00A7C100A7C1",
      "00A7C300A7C300A7C800A7C800A7CA00A7CA00A7D100A7D100A7D300A7D300A7D500A7D500A7D700A7D700A7D900A7D9",
      "00A7F200A7F400A7F600A7F600A7F800A7FA00AB3000AB5A00AB5C00AB6900AB7000ABBF00FB0000FB0600FB1300FB17",
      "00FF4100FF5A01042801044F0104D80104FB0105970105A10105A30105B10105B30105B90105BB0105BC010780010780",
      "0107830107850107870107B00107B20107BA010CC0010CF20118C00118DF016E60016E7F01D41A01D43301D44E01D454",
      "01D45601D46701D48201D49B01D4B601D4B901D4BB01D4BB01D4BD01D4C301D4C501D4CF01D4EA01D50301D51E01D537",
      "01D55201D56B01D58601D59F01D5BA01D5D301D5EE01D60701D62201D63B01D65601D66F01D68A01D6A501D6C201D6DA",
      "01D6DC01D6E101D6FC01D71401D71601D71B01D73601D74E01D75001D75501D77001D78801D78A01D78F01D7AA01D7C2",
      "01D7C401D7C901D7CB01D7CB01DF0001DF0901DF0B01DF1E01DF2501DF2A01E03001E06D01E92201E943"] },
  { names := ["math"]
    ranges := String.join [
      "00002B00002B00003C00003E00005E00005E00007C00007C00007E00007E0000AC0000AC0000B10000B10000D70000D7",
      "0000F70000F70003D00003D20003D50003D50003F00003F10003F40003F6000606000608002016002016002032002034",
      "00204000204000204400204400205200205200206100206400207A00207E00208A00208E0020D00020DC0020E10020E1",
      "0020E50020E60020EB0020EF00210200210200210700210700210A00211300211500211500211800211D002124002124",
      "00212800212900212C00212D00212F00213100213300213800213C00214900214B00214B0021900021A70021A90021AE",
      "0021B00021B10021B60021B70021BC0021DB0021DD0021DD0021E40021E50021F40022FF00230800230B002320002321",
      "00237C00237C00239B0023B50023B70023B70023D00023D00023DC0023E20025A00025A10025AE0025B70025BC0025C1",
      "0025C60025C70025CA0025CB0025CF0025D30025E20025E20025E40025E40025E70025EC0025F80025FF002605002606",
      "00264000264000264200264200266000266300266D00266F0027C00027FF002900002AFF002B30002B44002B47002B4C",
      "00FB2900FB2900FE6100FE6600FE6800FE6800FF0B00FF0B00FF1C00FF1E00FF3C00FF3C00FF3E00FF3E00FF5C00FF5C",
      "00FF5E00FF5E00FFE200FFE200FFE900FFEC01D40001D45401D45601D49C01D49E01D49F01D4A201D4A201D4A501D4A6",
      "01D4A901D4AC01D4AE01D4B901D4BB01D4BB01D4BD01D4C301D4C501D50501D50701D50A01D50D01D51401D51601D51C",
      "01D51E01D53901D53B01D53E01D54001D54401D54601D54601D54A01D55001D55201D6A501D6A801D7CB01D7CE01D7FF",
      "01EE0001EE0301EE0501EE1F01EE2101EE2201EE2401EE2401EE2701EE2701EE2901EE3201EE3401EE3701EE3901EE39",
      "01EE3B01EE3B01EE4201EE4201EE4701EE4701EE4901EE4901EE4B01EE4B01EE4D01EE4F01EE5101EE5201EE5401EE54",
      "01EE5701EE5701EE5901EE5901EE5B01EE5B01EE5D01EE5D01EE5F01EE5F01EE6101EE6201EE6401EE6401EE6701EE6A",
      "01EE6C01EE7201EE7401EE7701EE7901EE7C01EE7E01EE7E01EE8001EE8901EE8B01EE9B01EEA101EEA301EEA501EEA9",
      "01EEAB01EEBB01EEF001EEF1"] },
  { names := ["nchar", "noncharactercodepoint"]
    ranges := String.join [
      "00FDD000FDEF00FFFE00FFFF01FFFE01FFFF02FFFE02FFFF03FFFE03FFFF04FFFE04FFFF05FFFE05FFFF06FFFE06FFFF",
      "07FFFE07FFFF08FFFE08FFFF09FFFE09FFFF0AFFFE0AFFFF0BFFFE0BFFFF0CFFFE0CFFFF0DFFFE0DFFFF0EFFFE0EFFFF",
      "0FFFFE0FFFFF10FFFE10FFFF"] },
  { names := ["patsyn", "patternsyntax"]
    ranges := String.join [
      "00002100002F00003A00004000005B00005E00006000006000007B00007E0000A10000A70000A90000A90000AB0000AC",
      "0000AE0000AE0000B00000B10000B60000B60000BB0000BB0000BF0000BF0000D70000D70000F70000F7002010002027",
      "00203000203E00204100205300205500205E00219000245F002500002775002794002BFF002E00002E7F003001003003",
      "00300800302000303000303000FD3E00FD3F00FE4500FE46"] },
  { names := ["patws", "patternwhitespace"]
    ranges := String.join [
      "00000900000D00002000002000008500008500200E00200F002028002029"] },
  { names := ["pcm", "prependedconcatenationmark"]
    ranges := String.join [
      "0006000006050006DD0006DD00070F00070F0008900008910008E20008E20110BD0110BD0110CD0110CD"] },
  { names := ["qmark", "quotationmark"]
    ranges := String.join [
      "0000220000220000270000270000AB0000AB0000BB0000BB00201800201F00203900203A002E42002E4200300C00300F",
      "00301D00301F00FE4100FE4400FF0200FF0200FF0700FF0700FF6200FF63"] },
  { names := ["radical"]
    ranges := String.join [
      "002E80002E99002E9B002EF3002F00002FD5"] },
  { names := ["ri", "regionalindicator"]
    ranges := String.join [
      "01F1E601F1FF"] },
  { names := ["sterm", "sentenceterminal"]
    ranges := String.join [
      "00002100002100002E00002E00003F00003F00058900058900061D00061F0006D40006D40007000007020007F90007F9",
      "00083700083700083900083900083D00083E00096400096500104A00104B00136200136200136700136800166E00166E",
      "001735001736001803001803001809001809001944001945001AA8001AAB001B5A001B5B001B5E001B5F001B7D001B7E",
      "001C3B001C3C001C7E001C7F00203C00203D002047002049002E2E002E2E002E3C002E3C002E53002E54003002003002",
      "00A4FF00A4FF00A60E00A60F00A6F300A6F300A6F700A6F700A87600A87700A8CE00A8CF00A92F00A92F00A9C800A9C9",
      "00AA5D00AA5F00AAF000AAF100ABEB00ABEB00FE5200FE5200FE5600FE5700FF0100FF0100FF0E00FF0E00FF1F00FF1F",
      "00FF6100FF61010A56010A57010F55010F59010F86010F890110470110480110BE0110C10111410111430111C50111C6",
      "0111CD0111CD0111DE0111DF01123801123901123B01123C0112A90112A901144B01144C0115C20115C30115C90115D7",
      "01164101164201173C01173E011944011944011946011946011A42011A43011A9B011A9C011C41011C42011EF7011EF8",
      "011F43011F44016A6E016A6F016AF5016AF5016B37016B38016B44016B44016E98016E9801BC9F01BC9F01DA8801DA88"] },
  { names := ["sd", "softdotted"]
    ranges := String.join [
      "00006900006A00012F00012F00024900024900026800026800029D00029D0002B20002B20003F30003F3000456000456",
      "000458000458001D62001D62001D96001D96001DA4001DA4001DA8001DA8001E2D001E2D001ECB001ECB002071002071",
      "002148002149002C7C002C7C01D42201D42301D45601D45701D48A01D48B01D4BE01D4BF01D4F201D4F301D52601D527",
      "01D55A01D55B01D58E01D58F01D5C201D5C301D5F601D5F701D62A01D62B01D65E01D65F01D69201D69301DF1A01DF1A",
      "01E04C01E04D01E06801E068"] },
  { names := ["term", "terminalpunctuation"]
    ranges := String.join [
      "00002100002100002C00002C00002E00002E00003A00003B00003F00003F00037E00037E000387000387000589000589",
      "0005C30005C300060C00060C00061B00061B00061D00061F0006D40006D400070000070A00070C00070C0007F80007F9",
      "00083000083E00085E00085E000964000965000E5A000E5B000F08000F08000F0D000F1200104A00104B001361001368",
      "00166E00166E0016EB0016ED0017350017360017D40017D60017DA0017DA001802001805001808001809001944001945",
      "001AA8001AAB001B5A001B5B001B5D001B5F001B7D001B7E001C3B001C3F001C7E001C7F00203C00203D002047002049",
      "002E2E002E2E002E3C002E3C002E41002E41002E4C002E4C002E4E002E4F002E53002E5400300100300200A4FE00A4FF",
      "00A60D00A60F00A6F300A6F700A87600A87700A8CE00A8CF00A92F00A92F00A9C700A9C900AA5D00AA5F00AADF00AADF",
      "00AAF000AAF100ABEB00ABEB00FE5000FE5200FE5400FE5700FF0100FF0100FF0C00FF0C00FF0E00FF0E00FF1A00FF1B",
      "00FF1F00FF1F00FF6100FF6100FF6400FF6401039F01039F0103D00103D001085701085701091F01091F010A56010A57",
      "010AF0010AF5010B3A010B3F010B99010B9C010F55010F59010F86010F8901104701104D0110BE0110C1011141011143",
      "0111C50111C60111CD0111CD0111DE0111DF01123801123C0112A90112A901144B01144D01145A01145B0115C20115C5",
      "0115C90115D701164101164201173C01173E011944011944011946011946011A42011A43011A9B011A9C011AA1011AA2",
      "011C41011C43011C71011C71011EF7011EF8011F43011F44012470012474016A6E016A6F016AF5016AF5016B37016B39",
      "016B44016B44016E97016E9801BC9F01BC9F01DA8701DA8A"] },
  { names := ["uideo", "unifiedideograph"]
    ranges := String.join [
      "003400004DBF004E00009FFF00FA0E00FA0F00FA1100FA1100FA1300FA1400FA1F00FA1F00FA2100FA2100FA2300FA24",
      "00FA2700FA2902000002A6DF02A70002B73902B74002B81D02B82002CEA102CEB002EBE003000003134A0313500323AF"] },
  { names := ["upper", "uppercase"]
    ranges := String.join [
      "00004100005A0000C00000D60000D80000DE000100000100000102000102000104000104000106000106000108000108",
      "00010A00010A00010C00010C00010E00010E000110000110000112000112000114000114000116000116000118000118",
      "00011A00011A00011C00011C00011E00011E000120000120000122000122000124000124000126000126000128000128",
      "00012A00012A00012C00012C00012E00012E000130000130000132000132000134000134000136000136000139000139",
      "00013B00013B00013D00013D00013F00013F00014100014100014300014300014500014500014700014700014A00014A",
      "00014C00014C00014E00014E00015000015000015200015200015400015400015600015600015800015800015A00015A",
      "00015C00015C00015E00015E00016000016000016200016200016400016400016600016600016800016800016A00016A",
      "00016C00016C00016E00016E00017000017000017200017200017400017400017600017600017800017900017B00017B",
      "00017D00017D00018100018200018400018400018600018700018900018B00018E000191000193000194000196000198",
      "00019C00019D00019F0001A00001A20001A20001A40001A40001A60001A70001A90001A90001AC0001AC0001AE0001AF",
      "0001B10001B30001B50001B50001B70001B80001BC0001BC0001C40001C40001C70001C70001CA0001CA0001CD0001CD",
      "0001CF0001CF0001D10001D10001D30001D30001D50001D50001D70001D70001D90001D90001DB0001DB0001DE0001DE",
      "0001E00001E00001E20001E20001E40001E40001E60001E60001E80001E80001EA0001EA0001EC0001EC0001EE0001EE",
      "0001F10001F10001F40001F40001F60001F80001FA0001FA0001FC0001FC0001FE0001FE000200000200000202000202",
      "00020400020400020600020600020800020800020A00020A00020C00020C00020E00020E000210000210000212000212",
      "00021400021400021600021600021800021800021A00021A00021C00021C00021E00021E000220000220000222000222",
      "00022400022400022600022600022800022800022A00022A00022C00022C00022E00022E000230000230000232000232",
      "00023A00023B00023D00023E00024100024100024300024600024800024800024A00024A00024C00024C00024E00024E",
      "00037000037000037200037200037600037600037F00037F00038600038600038800038A00038C00038C00038E00038F",
      "0003910003A10003A30003AB0003CF0003CF0003D20003D40003D80003D80003DA0003DA0003DC0003DC0003DE0003DE",
      "0003E00003E00003E20003E20003E40003E40003E60003E60003E80003E80003EA0003EA0003EC0003EC0003EE0003EE",
      "0003F40003F40003F70003F70003F90003FA0003FD00042F000460000460000462000462000464000464000466000466",
      "00046800046800046A00046A00046C00046C00046E00046E000470000470000472000472000474000474000476000476",
      "00047800047800047A00047A00047C00047C00047E00047E00048000048000048A00048A00048C00048C00048E00048E",
      "00049000049000049200049200049400049400049600049600049800049800049A00049A00049C00049C00049E00049E",
      "0004A00004A00004A20004A20004A40004A40004A60004A60004A80004A80004AA0004AA0004AC0004AC0004AE0004AE",
      "0004B00004B00004B20004B20004B40004B40004B60004B60004B80004B80004BA0004BA0004BC0004BC0004BE0004BE",
      "0004C00004C10004C30004C30004C50004C50004C70004C70004C90004C90004CB0004CB0004CD0004CD0004D00004D0",
      "0004D20004D20004D40004D40004D60004D60004D80004D80004DA0004DA0004DC0004DC0004DE0004DE0004E00004E0",
      "0004E20004E20004E40004E40004E60004E60004E80004E80004EA0004EA0004EC0004EC0004EE0004EE0004F00004F0",
      "0004F20004F20004F40004F40004F60004F60004F80004F80004FA0004FA0004FC0004FC0004FE0004FE000500000500",
      "00050200050200050400050400050600050600050800050800050A00050A00050C00050C00050E00050E000510000510",
      "00051200051200051400051400051600051600051800051800051A00051A00051C00051C00051E00051E000520000520",
      "00052200052200052400052400052600052600052800052800052A00052A00052C00052C00052E00052E000531000556",
      "0010A00010C50010C70010C70010CD0010CD0013A00013F5001C90001CBA001CBD001CBF001E00001E00001E02001E02",
      "001E04001E04001E06001E06001E08001E08001E0A001E0A001E0C001E0C001E0E001E0E001E10001E10001E12001E12",
      "001E14001E14001E16001E16001E18001E18001E1A001E1A001E1C001E1C001E1E001E1E001E20001E20001E22001E22",
      "001E24001E24001E26001E26001E28001E28001E2A001E2A001E2C001E2C001E2E001E2E001E30001E30001E32001E32",
      "001E34001E34001E36001E36001E38001E38001E3A001E3A001E3C001E3C001E3E001E3E001E40001E40001E42001E42",
      "001E44001E44001E46001E46001E48001E48001E4A001E4A001E4C001E4C001E4E001E4E001E50001E50001E52001E52",
      "001E54001E54001E56001E56001E58001E58001E5A001E5A001E5C001E5C001E5E001E5E001E60001E60001E62001E62",
      "001E64001E64001E66001E66001E68001E68001E6A001E6A001E6C001E6C001E6E001E6E001E70001E70001E72001E72",
      "001E74001E74001E76001E76001E78001E78001E7A001E7A001E7C001E7C001E7E001E7E001E80001E80001E82001E82",
      "001E84001E84001E86001E86001E88001E88001E8A001E8A001E8C001E8C001E8E001E8E001E90001E90001E92001E92",
      "001E94001E94001E9E001E9E001EA0001EA0001EA2001EA2001EA4001EA4001EA6001EA6001EA8001EA8001EAA001EAA",
      "001EAC001EAC001EAE001EAE001EB0001EB0001EB2001EB2001EB4001EB4001EB6001EB6001EB8001EB8001EBA001EBA",
      "001EBC001EBC001EBE001EBE001EC0001EC0001EC2001EC2001EC4001EC4001EC6001EC6001EC8001EC8001ECA001ECA",
      "001ECC001ECC001ECE001ECE001ED0001ED0001ED2001ED2001ED4001ED4001ED6001ED6001ED8001ED8001EDA001EDA",
      "001EDC001EDC001EDE001EDE001EE0001EE0001EE2001EE2001EE4001EE4001EE6001EE6001EE8001EE8001EEA001EEA",
      "001EEC001EEC001EEE001EEE001EF0001EF0001EF2001EF2001EF4001EF4001EF6001EF6001EF8001EF8001EFA001EFA",
      "001EFC001EFC001EFE001EFE001F08001F0F001F18001F1D001F28001F2F001F38001F3F001F48001F4D001F59001F59",
      "001F5B001F5B001F5D001F5D001F5F001F5F001F68001F6F001FB8001FBB001FC8001FCB001FD8001FDB001FE8001FEC",
      "001FF8001FFB00210200210200210700210700210B00210D00211000211200211500211500211900211D002124002124",
      "00212600212600212800212800212A00212D00213000213300213E00213F00214500214500216000216F002183002183",
      "0024B60024CF002C00002C2F002C60002C60002C62002C64002C67002C67002C69002C69002C6B002C6B002C6D002C70",
      "002C72002C72002C75002C75002C7E002C80002C82002C82002C84002C84002C86002C86002C88002C88002C8A002C8A",
      "002C8C002C8C002C8E002C8E002C90002C90002C92002C92002C94002C94002C96002C96002C98002C98002C9A002C9A",
      "002C9C002C9C002C9E002C9E002CA0002CA0002CA2002CA2002CA4002CA4002CA6002CA6002CA8002CA8002CAA002CAA",
      "002CAC002CAC002CAE002CAE002CB0002CB0002CB2002CB2002CB4002CB4002CB6002CB6002CB8002CB8002CBA002CBA",
      "002CBC002CBC002CBE002CBE002CC0002CC0002CC2002CC2002CC4002CC4002CC6002CC6002CC8002CC8002CCA002CCA",
      "002CCC002CCC002CCE002CCE002CD0002CD0002CD2002CD2002CD4002CD4002CD6002CD6002CD8002CD8002CDA002CDA",
      "002CDC002CDC002CDE002CDE002CE0002CE0002CE2002CE2002CEB002CEB002CED002CED002CF2002CF200A64000A640",
      "00A64200A64200A64400A64400A64600A64600A64800A64800A64A00A64A00A64C00A64C00A64E00A64E00A65000A650",
      "00A65200A65200A65400A65400A65600A65600A65800A65800A65A00A65A00A65C00A65C00A65E00A65E00A66000A660",
      "00A66200A66200A66400A66400A66600A66600A66800A66800A66A00A66A00A66C00A66C00A68000A68000A68200A682",
      "00A68400A68400A68600A68600A68800A68800A68A00A68A00A68C00A68C00A68E00A68E00A69000A69000A69200A692",
      "00A69400A69400A69600A69600A69800A69800A69A00A69A00A72200A72200A72400A72400A72600A72600A72800A728",
      "00A72A00A72A00A72C00A72C00A72E00A72E00A73200A73200A73400A73400A73600A73600A73800A73800A73A00A73A",
      "00A73C00A73C00A73E00A73E00A74000A74000A74200A74200A74400A74400A74600A74600A74800A74800A74A00A74A",
      "00A74C00A74C00A74E00A74E00A75000A75000A75200A75200A75400A75400A75600A75600A75800A75800A75A00A75A",
      "00A75C00A75C00A75E00A75E00A76000A76000A76200A76200A76400A76400A76600A76600A76800A76800A76A00A76A",
      "00A76C00A76C00A76E00A76E00A77900A77900A77B00A77B00A77D00A77E00A78000A78000A78200A78200A78400A784",
      "00A78600A78600A78B00A78B00A78D00A78D00A79000A79000A79200A79200A79600A79600A79800A79800A79A00A79A",
      "00A79C00A79C00A79E00A79E00A7A000A7A000A7A200A7A200A7A400A7A400A7A600A7A600A7A800A7A800A7AA00A7AE",
      "00A7B000A7B400A7B600A7B600A7B800A7B800A7BA00A7BA00A7BC00A7BC00A7BE00A7BE00A7C000A7C000A7C200A7C2",
      "00A7C400A7C700A7C900A7C900A7D000A7D000A7D600A7D600A7D800A7D800A7F500A7F500FF2100FF3A010400010427",
      "0104B00104D301057001057A01057C01058A01058C010592010594010595010C80010CB20118A00118BF016E40016E5F",
      "01D40001D41901D43401D44D01D46801D48101D49C01D49C01D49E01D49F01D4A201D4A201D4A501D4A601D4A901D4AC",
      "01D4AE01D4B501D4D001D4E901D50401D50501D50701D50A01D50D01D51401D51601D51C01D53801D53901D53B01D53E",
      "01D54001D54401D54601D54601D54A01D55001D56C01D58501D5A001D5B901D5D401D5ED01D60801D62101D63C01D655",
      "01D67001D68901D6A801D6C001D6E201D6FA01D71C01D73401D75601D76E01D79001D7A801D7CA01D7CA01E90001E921",
      "01F13001F14901F15001F16901F17001F189"] },
  { names := ["vs", "variationselector"]
    ranges := String.join [
      "00180B00180D00180F00180F00FE0000FE0F0E01000E01EF"] },
  { names := ["wspace", "whitespace", "space"]
    ranges := String.join [
      "00000900000D0000200000200000850000850000A00000A000168000168000200000200A00202800202900202F00202F",
      "00205F00205F003000003000"] },
  { names := ["xidc", "xidcontinue"]
    ranges := String.join [
      "00003000003900004100005A00005F00005F00006100007A0000AA0000AA0000B50000B50000B70000B70000BA0000BA",
      "0000C00000D60000D80000F60000F80002C10002C60002D10002E00002E40002EC0002EC0002EE0002EE000300000374",
      "00037600037700037B00037D00037F00037F00038600038A00038C00038C00038E0003A10003A30003F50003F7000481",
      "00048300048700048A00052F0005310005560005590005590005600005880005910005BD0005BF0005BF0005C10005C2",
      "0005C40005C50005C70005C70005D00005EA0005EF0005F200061000061A00062000066900066E0006D30006D50006DC",
      "0006DF0006E80006EA0006FC0006FF0006FF00071000074A00074D0007B10007C00007F50007FA0007FA0007FD0007FD",
      "00080000082D00084000085B00086000086A00087000088700088900088E0008980008E10008E300096300096600096F",
      "00097100098300098500098C00098F0009900009930009A80009AA0009B00009B20009B20009B60009B90009BC0009C4",
      "0009C70009C80009CB0009CE0009D70009D70009DC0009DD0009DF0009E30009E60009F10009FC0009FC0009FE0009FE",
      "000A01000A03000A05000A0A000A0F000A10000A13000A28000A2A000A30000A32000A33000A35000A36000A38000A39",
      "000A3C000A3C000A3E000A42000A47000A48000A4B000A4D000A51000A51000A59000A5C000A5E000A5E000A66000A75",
      "000A81000A83000A85000A8D000A8F000A91000A93000AA8000AAA000AB0000AB2000AB3000AB5000AB9000ABC000AC5",
      "000AC7000AC9000ACB000ACD000AD0000AD0000AE0000AE3000AE6000AEF000AF9000AFF000B01000B03000B05000B0C",
      "000B0F000B10000B13000B28000B2A000B30000B32000B33000B35000B39000B3C000B44000B47000B48000B4B000B4D",
      "000B55000B57000B5C000B5D000B5F000B63000B66000B6F000B71000B71000B82000B83000B85000B8A000B8E000B90",
      "000B92000B95000B99000B9A000B9C000B9C000B9E000B9F000BA3000BA4000BA8000BAA000BAE000BB9000BBE000BC2",
      "000BC6000BC8000BCA000BCD000BD0000BD0000BD7000BD7000BE6000BEF000C00000C0C000C0E000C10000C12000C28",
      "000C2A000C39000C3C000C44000C46000C48000C4A000C4D000C55000C56000C58000C5A000C5D000C5D000C60000C63",
      "000C66000C6F000C80000C83000C85000C8C000C8E000C90000C92000CA8000CAA000CB3000CB5000CB9000CBC000CC4",
      "000CC6000CC8000CCA000CCD000CD5000CD6000CDD000CDE000CE0000CE3000CE6000CEF000CF1000CF3000D00000D0C",
      "000D0E000D10000D12000D44000D46000D48000D4A000D4E000D54000D57000D5F000D63000D66000D6F000D7A000D7F",
      "000D81000D83000D85000D96000D9A000DB1000DB3000DBB000DBD000DBD000DC0000DC6000DCA000DCA000DCF000DD4",
      "000DD6000DD6000DD8000DDF000DE6000DEF000DF2000DF3000E01000E3A000E40000E4E000E50000E59000E81000E82",
      "000E84000E84000E86000E8A000E8C000EA3000EA5000EA5000EA7000EBD000EC0000EC4000EC6000EC6000EC8000ECE",
      "000ED0000ED9000EDC000EDF000F00000F00000F18000F19000F20000F29000F35000F35000F37000F37000F39000F39",
      "000F3E000F47000F49000F6C000F71000F84000F86000F97000F99000FBC000FC6000FC600100000104900105000109D",
      "0010A00010C50010C70010C70010CD0010CD0010D00010FA0010FC00124800124A00124D001250001256001258001258",
      "00125A00125D00126000128800128A00128D0012900012B00012B20012B50012B80012BE0012C00012C00012C20012C5",
      "0012C80012D60012D800131000131200131500131800135A00135D00135F00136900137100138000138F0013A00013F5",
      "0013F80013FD00140100166C00166F00167F00168100169A0016A00016EA0016EE0016F800170000171500171F001734",
      "00174000175300176000176C00176E0017700017720017730017800017D30017D70017D70017DC0017DD0017E00017E9",
      "00180B00180D00180F0018190018200018780018800018AA0018B00018F500190000191E00192000192B00193000193B",
      "00194600196D0019700019740019800019AB0019B00019C90019D00019DA001A00001A1B001A20001A5E001A60001A7C",
      "001A7F001A89001A90001A99001AA7001AA7001AB0001ABD001ABF001ACE001B00001B4C001B50001B59001B6B001B73",
      "001B80001BF3001C00001C37001C40001C49001C4D001C7D001C80001C88001C90001CBA001CBD001CBF001CD0001CD2",
      "001CD4001CFA001D00001F15001F18001F1D001F20001F45001F48001F4D001F50001F57001F59001F59001F5B001F5B",
      "001F5D001F5D001F5F001F7D001F80001FB4001FB6001FBC001FBE001FBE001FC2001FC4001FC6001FCC001FD0001FD3",
      "001FD6001FDB001FE0001FEC001FF2001FF4001FF6001FFC00203F00204000205400205400207100207100207F00207F",
      "00209000209C0020D00020DC0020E10020E10020E50020F000210200210200210700210700210A002113002115002115",
      "00211800211D00212400212400212600212600212800212800212A00213900213C00213F00214500214900214E00214E",
      "002160002188002C00002CE4002CEB002CF3002D00002D25002D27002D27002D2D002D2D002D30002D67002D6F002D6F",
      "002D7F002D96002DA0002DA6002DA8002DAE002DB0002DB6002DB8002DBE002DC0002DC6002DC8002DCE002DD0002DD6",
      "002DD8002DDE002DE0002DFF00300500300700302100302F00303100303500303800303C00304100309600309900309A",
      "00309D00309F0030A10030FA0030FC0030FF00310500312F00313100318E0031A00031BF0031F00031FF003400004DBF",
      "004E0000A48C00A4D000A4FD00A50000A60C00A61000A62B00A64000A66F00A67400A67D00A67F00A6F100A71700A71F",
      "00A72200A78800A78B00A7CA00A7D000A7D100A7D300A7D300A7D500A7D900A7F200A82700A82C00A82C00A84000A873",
      "00A88000A8C500A8D000A8D900A8E000A8F700A8FB00A8FB00A8FD00A92D00A93000A95300A96000A97C00A98000A9C0",
      "00A9CF00A9D900A9E000A9FE00AA0000AA3600AA4000AA4D00AA5000AA5900AA6000AA7600AA7A00AAC200AADB00AADD",
      "00AAE000AAEF00AAF200AAF600AB0100AB0600AB0900AB0E00AB1100AB1600AB2000AB2600AB2800AB2E00AB3000AB5A",
      "00AB5C00AB6900AB7000ABEA00ABEC00ABED00ABF000ABF900AC0000D7A300D7B000D7C600D7CB00D7FB00F90000FA6D",
      "00FA7000FAD900FB0000FB0600FB1300FB1700FB1D00FB2800FB2A00FB3600FB3800FB3C00FB3E00FB3E00FB4000FB41",
      "00FB4300FB4400FB4600FBB100FBD300FC5D00FC6400FD3D00FD5000FD8F00FD9200FDC700FDF000FDF900FE0000FE0F",
      "00FE2000FE2F00FE3300FE3400FE4D00FE4F00FE7100FE7100FE7300FE7300FE7700FE7700FE7900FE7900FE7B00FE7B",
      "00FE7D00FE7D00FE7F00FEFC00FF1000FF1900FF2100FF3A00FF3F00FF3F00FF4100FF5A00FF6600FFBE00FFC200FFC7",
      "00FFCA00FFCF00FFD200FFD700FFDA00FFDC01000001000B01000D01002601002801003A01003C01003D01003F01004D",
      "01005001005D0100800100FA0101400101740101FD0101FD01028001029C0102A00102D00102E00102E001030001031F",
      "01032D01034A01035001037A01038001039D0103A00103C30103C80103CF0103D10103D501040001049D0104A00104A9",
      "0104B00104D30104D80104FB01050001052701053001056301057001057A01057C01058A01058C010592010594010595",
      "0105970105A10105A30105B10105B30105B90105BB0105BC010600010736010740010755010760010767010780010785",
      "0107870107B00107B20107BA01080001080501080801080801080A01083501083701083801083C01083C01083F010855",
      "01086001087601088001089E0108E00108F20108F40108F50109000109150109200109390109800109B70109BE0109BF",
      "010A00010A03010A05010A06010A0C010A13010A15010A17010A19010A35010A38010A3A010A3F010A3F010A60010A7C",
      "010A80010A9C010AC0010AC7010AC9010AE6010B00010B35010B40010B55010B60010B72010B80010B91010C00010C48",
      "010C80010CB2010CC0010CF2010D00010D27010D30010D39010E80010EA9010EAB010EAC010EB0010EB1010EFD010F1C",
      "010F27010F27010F30010F50010F70010F85010FB0010FC4010FE0010FF601100001104601106601107501107F0110BA",
      "0110C20110C20110D00110E80110F00110F901110001113401113601113F011144011147011150011173011176011176",
      "0111800111C40111C90111CC0111CE0111DA0111DC0111DC01120001121101121301123701123E011241011280011286",
      "01128801128801128A01128D01128F01129D01129F0112A80112B00112EA0112F00112F901130001130301130501130C",
      "01130F01131001131301132801132A01133001133201133301133501133901133B01134401134701134801134B01134D",
      "01135001135001135701135701135D01136301136601136C01137001137401140001144A01145001145901145E011461",
      "0114800114C50114C70114C70114D00114D90115800115B50115B80115C00115D80115DD011600011640011644011644",
      "0116500116590116800116B80116C00116C901170001171A01171D01172B01173001173901174001174601180001183A",
      "0118A00118E90118FF01190601190901190901190C01191301191501191601191801193501193701193801193B011943",
      "0119500119590119A00119A70119AA0119D70119DA0119E10119E30119E4011A00011A3E011A47011A47011A50011A99",
      "011A9D011A9D011AB0011AF8011C00011C08011C0A011C36011C38011C40011C50011C59011C72011C8F011C92011CA7",
      "011CA9011CB6011D00011D06011D08011D09011D0B011D36011D3A011D3A011D3C011D3D011D3F011D47011D50011D59",
      "011D60011D65011D67011D68011D6A011D8E011D90011D91011D93011D98011DA0011DA9011EE0011EF6011F00011F10",
      "011F12011F3A011F3E011F42011F50011F59011FB0011FB001200001239901240001246E012480012543012F90012FF0",
      "01300001342F013440013455014400014646016800016A38016A40016A5E016A60016A69016A70016ABE016AC0016AC9",
      "016AD0016AED016AF0016AF4016B00016B36016B40016B43016B50016B59016B63016B77016B7D016B8F016E40016E7F",
      "016F00016F4A016F4F016F87016F8F016F9F016FE0016FE1016FE3016FE4016FF0016FF10170000187F7018800018CD5",
      "018D00018D0801AFF001AFF301AFF501AFFB01AFFD01AFFE01B00001B12201B13201B13201B15001B15201B15501B155",
      "01B16401B16701B17001B2FB01BC0001BC6A01BC7001BC7C01BC8001BC8801BC9001BC9901BC9D01BC9E01CF0001CF2D",
      "01CF3001CF4601D16501D16901D16D01D17201D17B01D18201D18501D18B01D1AA01D1AD01D24201D24401D40001D454",
      "01D45601D49C01D49E01D49F01D4A201D4A201D4A501D4A601D4A901D4AC01D4AE01D4B901D4BB01D4BB01D4BD01D4C3",
      "01D4C501D50501D50701D50A01D50D01D51401D51601D51C01D51E01D53901D53B01D53E01D54001D54401D54601D546",
      "01D54A01D55001D55201D6A501D6A801D6C001D6C201D6DA01D6DC01D6FA01D6FC01D71401D71601D73401D73601D74E",
      "01D75001D76E01D77001D78801D78A01D7A801D7AA01D7C201D7C401D7CB01D7CE01D7FF01DA0001DA3601DA3B01DA6C",
      "01DA7501DA7501DA8401DA8401DA9B01DA9F01DAA101DAAF01DF0001DF1E01DF2501DF2A01E00001E00601E00801E018",
      "01E01B01E02101E02301E02401E02601E02A01E03001E06D01E08F01E08F01E10001E12C01E13001E13D01E14001E149",
      "01E14E01E14E01E29001E2AE01E2C001E2F901E4D001E4F901E7E001E7E601E7E801E7EB01E7ED01E7EE01E7F001E7FE",
      "01E80001E8C401E8D001E8D601E90001E94B01E95001E95901EE0001EE0301EE0501EE1F01EE2101EE2201EE2401EE24",
      "01EE2701EE2701EE2901EE3201EE3401EE3701EE3901EE3901EE3B01EE3B01EE4201EE4201EE4701EE4701EE4901EE49",
      "01EE4B01EE4B01EE4D01EE4F01EE5101EE5201EE5401EE5401EE5701EE5701EE5901EE5901EE5B01EE5B01EE5D01EE5D",
      "01EE5F01EE5F01EE6101EE6201EE6401EE6401EE6701EE6A01EE6C01EE7201EE7401EE7701EE7901EE7C01EE7E01EE7E",
      "01EE8001EE8901EE8B01EE9B01EEA101EEA301EEA501EEA901EEAB01EEBB01FBF001FBF902000002A6DF02A70002B739",
      "02B74002B81D02B82002CEA102CEB002EBE002F80002FA1D03000003134A0313500323AF0E01000E01EF"] },
  { names := ["xids", "xidstart"]
    ranges := String.join [
      "00004100005A00006100007A0000AA0000AA0000B50000B50000BA0000BA0000C00000D60000D80000F60000F80002C1",
      "0002C60002D10002E00002E40002EC0002EC0002EE0002EE00037000037400037600037700037B00037D00037F00037F",
      "00038600038600038800038A00038C00038C00038E0003A10003A30003F50003F700048100048A00052F000531000556",
      "0005590005590005600005880005D00005EA0005EF0005F200062000064A00066E00066F0006710006D30006D50006D5",
      "0006E50006E60006EE0006EF0006FA0006FC0006FF0006FF00071000071000071200072F00074D0007A50007B10007B1",
      "0007CA0007EA0007F40007F50007FA0007FA00080000081500081A00081A000824000824000828000828000840000858",
      "00086000086A00087000088700088900088E0008A00008C900090400093900093D00093D000950000950000958000961",
      "00097100098000098500098C00098F0009900009930009A80009AA0009B00009B20009B20009B60009B90009BD0009BD",
      "0009CE0009CE0009DC0009DD0009DF0009E10009F00009F10009FC0009FC000A05000A0A000A0F000A10000A13000A28",
      "000A2A000A30000A32000A33000A35000A36000A38000A39000A59000A5C000A5E000A5E000A72000A74000A85000A8D",
      "000A8F000A91000A93000AA8000AAA000AB0000AB2000AB3000AB5000AB9000ABD000ABD000AD0000AD0000AE0000AE1",
      "000AF9000AF9000B05000B0C000B0F000B10000B13000B28000B2A000B30000B32000B33000B35000B39000B3D000B3D",
      "000B5C000B5D000B5F000B61000B71000B71000B83000B83000B85000B8A000B8E000B90000B92000B95000B99000B9A",
      "000B9C000B9C000B9E000B9F000BA3000BA4000BA8000BAA000BAE000BB9000BD0000BD0000C05000C0C000C0E000C10",
      "000C12000C28000C2A000C39000C3D000C3D000C58000C5A000C5D000C5D000C60000C61000C80000C80000C85000C8C",
      "000C8E000C90000C92000CA8000CAA000CB3000CB5000CB9000CBD000CBD000CDD000CDE000CE0000CE1000CF1000CF2",
      "000D04000D0C000D0E000D10000D12000D3A000D3D000D3D000D4E000D4E000D54000D56000D5F000D61000D7A000D7F",
      "000D85000D96000D9A000DB1000DB3000DBB000DBD000DBD000DC0000DC6000E01000E30000E32000E32000E40000E46",
      "000E81000E82000E84000E84000E86000E8A000E8C000EA3000EA5000EA5000EA7000EB0000EB2000EB2000EBD000EBD",
      "000EC0000EC4000EC6000EC6000EDC000EDF000F00000F00000F40000F47000F49000F6C000F88000F8C00100000102A",
      "00103F00103F00105000105500105A00105D00106100106100106500106600106E00107000107500108100108E00108E",
      "0010A00010C50010C70010C70010CD0010CD0010D00010FA0010FC00124800124A00124D001250001256001258001258",
      "00125A00125D00126000128800128A00128D0012900012B00012B20012B50012B80012BE0012C00012C00012C20012C5",
      "0012C80012D60012D800131000131200131500131800135A00138000138F0013A00013F50013F80013FD00140100166C",
      "00166F00167F00168100169A0016A00016EA0016EE0016F800170000171100171F00173100174000175100176000176C",
      "00176E0017700017800017B30017D70017D70017DC0017DC0018200018780018800018A80018AA0018AA0018B00018F5",
      "00190000191E00195000196D0019700019740019800019AB0019B00019C9001A00001A16001A20001A54001AA7001AA7",
      "001B05001B33001B45001B4C001B83001BA0001BAE001BAF001BBA001BE5001C00001C23001C4D001C4F001C5A001C7D",
      "001C80001C88001C90001CBA001CBD001CBF001CE9001CEC001CEE001CF3001CF5001CF6001CFA001CFA001D00001DBF",
      "001E00001F15001F18001F1D001F20001F45001F48001F4D001F50001F57001F59001F59001F5B001F5B001F5D001F5D",
      "001F5F001F7D001F80001FB4001FB6001FBC001FBE001FBE001FC2001FC4001FC6001FCC001FD0001FD3001FD6001FDB",
      "001FE0001FEC001FF2001FF4001FF6001FFC00207100207100207F00207F00209000209C002102002102002107002107",
      "00210A00211300211500211500211800211D00212400212400212600212600212800212800212A00213900213C00213F",
      "00214500214900214E00214E002160002188002C00002CE4002CEB002CEE002CF2002CF3002D00002D25002D27002D27",
      "002D2D002D2D002D30002D67002D6F002D6F002D80002D96002DA0002DA6002DA8002DAE002DB0002DB6002DB8002DBE",
      "002DC0002DC6002DC8002DCE002DD0002DD6002DD8002DDE00300500300700302100302900303100303500303800303C",
      "00304100309600309D00309F0030A10030FA0030FC0030FF00310500312F00313100318E0031A00031BF0031F00031FF",
      "003400004DBF004E0000A48C00A4D000A4FD00A50000A60C00A61000A61F00A62A00A62B00A64000A66E00A67F00A69D",
      "00A6A000A6EF00A71700A71F00A72200A78800A78B00A7CA00A7D000A7D100A7D300A7D300A7D500A7D900A7F200A801",
      "00A80300A80500A80700A80A00A80C00A82200A84000A87300A88200A8B300A8F200A8F700A8FB00A8FB00A8FD00A8FE",
      "00A90A00A92500A93000A94600A96000A97C00A98400A9B200A9CF00A9CF00A9E000A9E400A9E600A9EF00A9FA00A9FE",
      "00AA0000AA2800AA4000AA4200AA4400AA4B00AA6000AA7600AA7A00AA7A00AA7E00AAAF00AAB100AAB100AAB500AAB6",
      "00AAB900AABD00AAC000AAC000AAC200AAC200AADB00AADD00AAE000AAEA00AAF200AAF400AB0100AB0600AB0900AB0E",
      "00AB1100AB1600AB2000AB2600AB2800AB2E00AB3000AB5A00AB5C00AB6900AB7000ABE200AC0000D7A300D7B000D7C6",
      "00D7CB00D7FB00F90000FA6D00FA7000FAD900FB0000FB0600FB1300FB1700FB1D00FB1D00FB1F00FB2800FB2A00FB36",
      "00FB3800FB3C00FB3E00FB3E00FB4000FB4100FB4300FB4400FB4600FBB100FBD300FC5D00FC6400FD3D00FD5000FD8F",
      "00FD9200FDC700FDF000FDF900FE7100FE7100FE7300FE7300FE7700FE7700FE7900FE7900FE7B00FE7B00FE7D00FE7D",
      "00FE7F00FEFC00FF2100FF3A00FF4100FF5A00FF6600FF9D00FFA000FFBE00FFC200FFC700FFCA00FFCF00FFD200FFD7",
      "00FFDA00FFDC01000001000B01000D01002601002801003A01003C01003D01003F01004D01005001005D0100800100FA",
      "01014001017401028001029C0102A00102D001030001031F01032D01034A01035001037501038001039D0103A00103C3",
      "0103C80103CF0103D10103D501040001049D0104B00104D30104D80104FB01050001052701053001056301057001057A",
      "01057C01058A01058C0105920105940105950105970105A10105A30105B10105B30105B90105BB0105BC010600010736",
      "0107400107550107600107670107800107850107870107B00107B20107BA01080001080501080801080801080A010835",
      "01083701083801083C01083C01083F01085501086001087601088001089E0108E00108F20108F40108F5010900010915",
      "0109200109390109800109B70109BE0109BF010A00010A00010A10010A13010A15010A17010A19010A35010A60010A7C",
      "010A80010A9C010AC0010AC7010AC9010AE4010B00010B35010B40010B55010B60010B72010B80010B91010C00010C48",
      "010C80010CB2010CC0010CF2010D00010D23010E80010EA9010EB0010EB1010F00010F1C010F27010F27010F30010F45",
      "010F70010F81010FB0010FC4010FE0010FF60110030110370110710110720110750110750110830110AF0110D00110E8",
      "0111030111260111440111440111470111470111500111720111760111760111830111B20111C10111C40111DA0111DA",
      "0111DC0111DC01120001121101121301122B01123F01124001128001128601128801128801128A01128D01128F01129D",
      "01129F0112A80112B00112DE01130501130C01130F01131001131301132801132A011330011332011333011335011339",
      "01133D01133D01135001135001135D01136101140001143401144701144A01145F0114610114800114AF0114C40114C5",
      "0114C70114C70115800115AE0115D80115DB01160001162F0116440116440116800116AA0116B80116B801170001171A",
      "01174001174601180001182B0118A00118DF0118FF01190601190901190901190C01191301191501191601191801192F",
      "01193F01193F0119410119410119A00119A70119AA0119D00119E10119E10119E30119E3011A00011A00011A0B011A32",
      "011A3A011A3A011A50011A50011A5C011A89011A9D011A9D011AB0011AF8011C00011C08011C0A011C2E011C40011C40",
      "011C72011C8F011D00011D06011D08011D09011D0B011D30011D46011D46011D60011D65011D67011D68011D6A011D89",
      "011D98011D98011EE0011EF2011F02011F02011F04011F10011F12011F33011FB0011FB001200001239901240001246E",
      "012480012543012F90012FF001300001342F013441013446014400014646016800016A38016A40016A5E016A70016ABE",
      "016AD0016AED016B00016B2F016B40016B43016B63016B77016B7D016B8F016E40016E7F016F00016F4A016F50016F50",
      "016F93016F9F016FE0016FE1016FE3016FE30170000187F7018800018CD5018D00018D0801AFF001AFF301AFF501AFFB",
      "01AFFD01AFFE01B00001B12201B13201B13201B15001B15201B15501B15501B16401B16701B17001B2FB01BC0001BC6A",
      "01BC7001BC7C01BC8001BC8801BC9001BC9901D40001D45401D45601D49C01D49E01D49F01D4A201D4A201D4A501D4A6",
      "01D4A901D4AC01D4AE01D4B901D4BB01D4BB01D4BD01D4C301D4C501D50501D50701D50A01D50D01D51401D51601D51C",
      "01D51E01D53901D53B01D53E01D54001D54401D54601D54601D54A01D55001D55201D6A501D6A801D6C001D6C201D6DA",
      "01D6DC01D6FA01D6FC01D71401D71601D73401D73601D74E01D75001D76E01D77001D78801D78A01D7A801D7AA01D7C2",
      "01D7C401D7CB01DF0001DF1E01DF2501DF2A01E03001E06D01E10001E12C01E13701E13D01E14E01E14E01E29001E2AD",
      "01E2C001E2EB01E4D001E4EB01E7E001E7E601E7E801E7EB01E7ED01E7EE01E7F001E7FE01E80001E8C401E90001E943",
      "01E94B01E94B01EE0001EE0301EE0501EE1F01EE2101EE2201EE2401EE2401EE2701EE2701EE2901EE3201EE3401EE37",
      "01EE3901EE3901EE3B01EE3B01EE4201EE4201EE4701EE4701EE4901EE4901EE4B01EE4B01EE4D01EE4F01EE5101EE52",
      "01EE5401EE5401EE5701EE5701EE5901EE5901EE5B01EE5B01EE5D01EE5D01EE5F01EE5F01EE6101EE6201EE6401EE64",
      "01EE6701EE6A01EE6C01EE7201EE7401EE7701EE7901EE7C01EE7E01EE7E01EE8001EE8901EE8B01EE9B01EEA101EEA3",
      "01EEA501EEA901EEAB01EEBB02000002A6DF02A70002B73902B74002B81D02B82002CEA102CEB002EBE002F80002FA1D",
      "03000003134A0313500323AF"] }]

/-- 名前（緩くそろえたもの）の二値の性質。 -/
def PropertyEntry.find? (name : String) : Option PropertyEntry :=
  propertyEntries.find? fun e => e.names.contains name

end Workflow.Text
